/-!
# Compressed data

Compressed data are a sequence of blocks of bits, least significant bit of each byte first. A block
holds plain bytes, or symbols of a prefix code that stand for bytes and for copies of earlier
output. The decoder ends at the block that says it is the last, or at the first fault: the bits run
out, or they mean nothing.
-/
namespace DecompileServer.Archive.Inflate

/-- Why decoding stops before its end. -/
inductive Stop where
  /-- The bits run out. -/
  | incomplete
  /-- The bits mean nothing. -/
  | corrupt
  deriving DecidableEq, Repr

/-- A computation that takes bits from the front. -/
abbrev Decoder (α : Type) := StateT (List Bool) (Except Stop) α

/-- The bits of a byte, least significant first. -/
def bitsOfByte (byte : UInt8) : List Bool :=
  (List.range 8).map fun position => byte.toNat.testBit position

/-- The bits of bytes. -/
def bitsOf (bytes : List UInt8) : List Bool :=
  bytes.flatMap bitsOfByte

/-- The number whose bits are given, least significant first. -/
def valueOf (bits : List Bool) : Nat :=
  bits.foldr (fun bit value => (if bit then 1 else 0) + 2 * value) 0

/-- Takes a number of `count` bits. -/
def number (count : Nat) : Decoder Nat := fun bits =>
  let taken := bits.take count
  if taken.length = count then .ok (valueOf taken, bits.drop count) else .error .incomplete

/-- The number of bits in the longest code word. -/
def longest : Nat := 15

/-- A prefix code: for each length from one on, its symbols in the order of their code words. -/
abbrev Code := List (List Nat)

/-- The code in which symbol `n` has the length `lengths[n]`, and none if that is zero. Shorter
code words come first, and those of one length are in the order of their symbols. -/
def codeOf (lengths : List Nat) : Code :=
  (List.range longest).map fun length =>
    (lengths.zipIdx.filter fun entry => entry.1 = length + 1).map (·.2)

/-- The number of words of the greatest length that begin with a code word. -/
def coverage (code : Code) : Nat :=
  code.zipIdx.foldl (fun space (symbols, length) =>
    space + symbols.length * Nat.pow 2 (longest - 1 - length)) 0

/-- Whether every long enough word begins with exactly one code word. -/
def isComplete (code : Code) : Bool :=
  coverage code == Nat.pow 2 longest

/-- Whether the code is complete, or has no code word or just one, of a single bit. -/
def isUsable (code : Code) : Bool :=
  isComplete code || code.all List.isEmpty ||
    ((code.head?.map List.length) == some 1 && (code.drop 1).all List.isEmpty)

/-- Takes the symbol whose code word comes next. `first` is the least code word of the length in
turn and `word` what has been read, both without the bit in turn. A word that no code word begins
with means nothing, whatever follows it. -/
def symbolFrom (first word : Nat) : Code → List Bool → Except Stop (Nat × List Bool)
  | [], _ => .error .corrupt
  | _ :: _, [] => .error .incomplete
  | symbols :: further, bit :: rest =>
    let first := 2 * first
    let word := 2 * word + if bit then 1 else 0
    if word < first + symbols.length then
      match symbols[word - first]? with
      | some symbol => .ok (symbol, rest)
      | none => .error .corrupt
    else if further.all List.isEmpty then .error .corrupt
    else symbolFrom (first + symbols.length) word further rest

/-- Takes the symbol whose code word comes next. -/
def symbol (code : Code) : Decoder Nat :=
  symbolFrom 0 0 code

/-- The least length of a copy for each length symbol, and the number of further bits. -/
def lengthBases : List (Nat × Nat) :=
  [(3, 0), (4, 0), (5, 0), (6, 0), (7, 0), (8, 0), (9, 0), (10, 0), (11, 1), (13, 1), (15, 1),
   (17, 1), (19, 2), (23, 2), (27, 2), (31, 2), (35, 3), (43, 3), (51, 3), (59, 3), (67, 4),
   (83, 4), (99, 4), (115, 4), (131, 5), (163, 5), (195, 5), (227, 5), (258, 0)]

/-- The least distance of a copy for each distance symbol, and the number of further bits. -/
def distanceBases : List (Nat × Nat) :=
  [(1, 0), (2, 0), (3, 0), (4, 0), (5, 1), (7, 1), (9, 2), (13, 2), (17, 3), (25, 3), (33, 4),
   (49, 4), (65, 5), (97, 5), (129, 6), (193, 6), (257, 7), (385, 7), (513, 8), (769, 8),
   (1025, 9), (1537, 9), (2049, 10), (3073, 10), (4097, 11), (6145, 11), (8193, 12), (12289, 12),
   (16385, 13), (24577, 13)]

/-- Takes the amount that a symbol and the bits after it stand for. -/
def amount (bases : List (Nat × Nat)) (symbol : Nat) : Decoder Nat :=
  match bases[symbol]? with
  | none => throw .corrupt
  | some (base, further) => do
    let extra ← number further
    pure (base + extra)

/-- Repeats output from `distance` bytes ago; before its start the output counts as zeros. -/
def copy (distance : Nat) : Nat → Array UInt8 → Array UInt8
  | 0, output => output
  | length + 1, output =>
    let byte := if distance ≤ output.size then output.getD (output.size - distance) 0 else 0
    copy distance length (output.push byte)

/-- The output so far, and why it stops or the bits that follow. -/
structure Progress where
  /-- The bytes decoded. -/
  output : Array UInt8
  /-- The bits that follow, or why decoding stopped. -/
  next : Except Stop (List Bool)

/-- Takes the length and the distance of a copy. -/
def reference (distances : Code) (lengthSymbol : Nat) : Decoder (Nat × Nat) := do
  let length ← amount lengthBases lengthSymbol
  let distanceSymbol ← symbol distances
  let distance ← amount distanceBases distanceSymbol
  pure (length, distance)

/-- Decodes symbols to the end of a block. Each takes a bit, so `limit` is the number of bits. -/
def symbols (literals distances : Code) : Nat → Array UInt8 → List Bool → Progress
  | 0, output, _ => ⟨output, .error .incomplete⟩
  | limit + 1, output, bits =>
    match symbol literals bits with
    | .error stop => ⟨output, .error stop⟩
    | .ok (found, rest) =>
      if found < 256 then symbols literals distances limit (output.push (UInt8.ofNat found)) rest
      else if found = 256 then ⟨output, .ok rest⟩
      else
        match reference distances (found - 257) rest with
        | .error stop => ⟨output, .error stop⟩
        | .ok ((length, distance), rest) =>
          symbols literals distances limit (copy distance length output) rest

/-- The lengths of the fixed code for bytes and lengths of copies. -/
def fixedLiterals : Code :=
  codeOf (List.replicate 144 8 ++ List.replicate 112 9 ++ List.replicate 24 7 ++ List.replicate 8 8)

/-- The lengths of the fixed code for distances. -/
def fixedDistances : Code :=
  codeOf (List.replicate 32 5)

/-- The order in which the lengths of the code for lengths are given. -/
def lengthOrder : List Nat :=
  [16, 17, 18, 0, 8, 7, 9, 6, 10, 5, 11, 4, 12, 3, 13, 2, 14, 1, 15]

/-- Takes `count` numbers of three bits. -/
def shortNumbers : Nat → Decoder (List Nat)
  | 0 => pure []
  | count + 1 => do
    let first ← number 3
    let further ← shortNumbers count
    pure (first :: further)

/-- Takes what a symbol of the code for lengths stands for: a length and how often it comes. -/
def repetition (last : Option Nat) (symbol : Nat) : Decoder (Nat × Nat) := do
  if symbol < 16 then pure (symbol, 1)
  else if symbol = 16 then
    match last with
    | none => throw .corrupt
    | some length =>
      let extra ← number 2
      pure (length, 3 + extra)
  else if symbol = 17 then
    let extra ← number 3
    pure (0, 3 + extra)
  else
    let extra ← number 7
    pure (0, 11 + extra)

/-- Takes code lengths until there are `count` of them; `known` holds those before, last first. A
symbol takes a bit, so `limit` is the number of bits. -/
def codeLengths (code : Code) (count : Nat) (limit : Nat) (known : List Nat) :
    Decoder (List Nat) := do
  if known.length = count then pure known.reverse
  else if count < known.length then throw .corrupt
  else
    match limit with
    | 0 => throw .incomplete
    | limit + 1 =>
      let found ← symbol code
      let (length, times) ← repetition known.head? found
      codeLengths code count limit (List.replicate times length ++ known)

/-- Takes the two codes that a block brings with it. -/
def ownCodes : Decoder (Code × Code) := do
  let literalExtra ← number 5
  let distanceExtra ← number 5
  let lengthExtra ← number 4
  let literalCount := 257 + literalExtra
  let distanceCount := 1 + distanceExtra
  if 286 < literalCount ∨ 30 < distanceCount then throw .corrupt
  let given ← shortNumbers (4 + lengthExtra)
  let lengthOf (symbol : Nat) : Nat := ((lengthOrder.zip given).lookup symbol).getD 0
  let lengthCode := codeOf ((List.range 19).map lengthOf)
  if !isComplete lengthCode then throw .corrupt
  let bits ← get
  let lengths ← codeLengths lengthCode (literalCount + distanceCount) bits.length []
  let literals := codeOf (lengths.take literalCount)
  let distances := codeOf (lengths.drop literalCount)
  if !isUsable literals || !isUsable distances then throw .corrupt
  pure (literals, distances)

/-- The bytes of bits, eight at a time. -/
def bytesOf : Nat → List Bool → List UInt8
  | 0, _ => []
  | count + 1, bits => UInt8.ofNat (valueOf (bits.take 8)) :: bytesOf count (bits.drop 8)

/-- Takes the size of a block of plain bytes, which is given twice. -/
def plainSize : Decoder Nat := do
  let size ← number 16
  let complement ← number 16
  if size + complement ≠ 0xFFFF then throw .corrupt
  pure size

/-- Decodes a block of plain bytes, which begins at the next whole byte. -/
def plain (output : Array UInt8) (bits : List Bool) : Progress :=
  match plainSize (bits.drop (bits.length % 8)) with
  | .error stop => ⟨output, .error stop⟩
  | .ok (size, rest) =>
    let available := min size (rest.length / 8)
    let output := output ++ (bytesOf available rest).toArray
    if available = size then ⟨output, .ok (rest.drop (8 * size))⟩ else ⟨output, .error .incomplete⟩

/-- Decodes one block. The flag tells whether it says that it is the last. -/
def block (output : Array UInt8) (bits : List Bool) : Bool × Progress :=
  match number 3 bits with
  | .error stop => (true, ⟨output, .error stop⟩)
  | .ok (header, rest) =>
    let isLast := header % 2 = 1
    match header / 2 with
    | 0 => (isLast, plain output rest)
    | 1 => (isLast, symbols fixedLiterals fixedDistances rest.length output rest)
    | 2 =>
      match ownCodes rest with
      | .error stop => (true, ⟨output, .error stop⟩)
      | .ok ((literals, distances), rest) =>
        (isLast, symbols literals distances rest.length output rest)
    | _ => (true, ⟨output, .error .corrupt⟩)

/-- Decodes blocks up to the last one. Each takes a bit, so `limit` is the number of bits. -/
def blocks : Nat → Array UInt8 → List Bool → Progress
  | 0, output, _ => ⟨output, .error .incomplete⟩
  | limit + 1, output, bits =>
    match block output bits with
    | (isLast, ⟨output, next⟩) =>
      match next with
      | .error stop => ⟨output, .error stop⟩
      | .ok rest => if isLast then ⟨output, .ok rest⟩ else blocks limit output rest

/-- The output of compressed data, and why decoding stops early if it does. -/
structure Result where
  /-- The bytes decoded. -/
  output : Array UInt8
  /-- Why decoding stopped before the end of the last block. -/
  stop : Option Stop

/-- Decodes compressed data; what follows the last block is ignored. -/
def run (bytes : List UInt8) : Result :=
  let bits := bitsOf bytes
  let progress := blocks (bits.length + 1) #[] bits
  match progress.next with
  | .ok _ => ⟨progress.output, none⟩
  | .error stop => ⟨progress.output, some stop⟩

end DecompileServer.Archive.Inflate

/-!
# Digests

A message is filled up to blocks of sixty-four bytes, the last eight of which hold its length in bits. Each
block is worked into a state of words, and the words of the last state are the digest.
-/
namespace DecompileServer.Program.Digest

/-- The bytes of a number, the least significant first. -/
def bytesOf (count value : Nat) : List UInt8 :=
  match count with
  | 0 => []
  | count + 1 => UInt8.ofNat (value % 256) :: bytesOf count (value / 256)

/-- The number of bytes, the least significant first. -/
def numberOf (bytes : List UInt8) : Nat :=
  bytes.foldr (fun byte value => byte.toNat + 256 * value) 0

/-- A message filled up to whole blocks. `isBig` tells whether its length is written with the most
significant byte first. -/
def padded (isBig : Bool) (message : List UInt8) : List UInt8 :=
  let zeros := List.replicate ((119 - message.length % 64) % 64) 0
  let length := bytesOf 8 (8 * message.length)
  message ++ 0x80 :: zeros ++ if isBig then length.reverse else length

/-- Pieces of so many items. -/
def piecesOf {α : Type} (size : Nat) : Nat → List α → List (List α)
  | 0, _ => []
  | _ + 1, [] => []
  | limit + 1, items => items.take size :: piecesOf size limit (items.drop size)

/-- The words of a filled message, by blocks. -/
def blocksOf (isBig : Bool) (message : List UInt8) : List (List UInt32) :=
  let bytes := padded isBig message
  (piecesOf 64 bytes.length bytes).map fun block =>
    (piecesOf 4 16 block).map fun word =>
      UInt32.ofNat (numberOf (if isBig then word.reverse else word))

/-- Turns a word to the left. -/
def turned (word : UInt32) (count : UInt32) : UInt32 :=
  (word <<< count) ||| (word >>> (32 - count))

/-- Hexadecimal digits of bytes. -/
def hexOf (bytes : List UInt8) : String :=
  String.ofList (bytes.flatMap fun byte =>
    let digits := Nat.toDigits 16 byte.toNat
    List.replicate (2 - digits.length) '0' ++ digits)

/-- The digits of a state. -/
def shown (isBig : Bool) (state : List UInt32) : String :=
  hexOf (state.flatMap fun word =>
    let bytes := bytesOf 4 word.toNat
    if isBig then bytes.reverse else bytes)

/-- Adds the words of two states. -/
def added (first second : List UInt32) : List UInt32 := List.zipWith (· + ·) first second

/-! ### The message digest of 128 bits -/

/-- The constants of its rounds. -/
def sines : List UInt32 :=
  [0xd76aa478, 0xe8c7b756, 0x242070db, 0xc1bdceee, 0xf57c0faf, 0x4787c62a, 0xa8304613, 0xfd469501,
    0x698098d8, 0x8b44f7af, 0xffff5bb1, 0x895cd7be, 0x6b901122, 0xfd987193, 0xa679438e, 0x49b40821,
    0xf61e2562, 0xc040b340, 0x265e5a51, 0xe9b6c7aa, 0xd62f105d, 0x02441453, 0xd8a1e681, 0xe7d3fbc8,
    0x21e1cde6, 0xc33707d6, 0xf4d50d87, 0x455a14ed, 0xa9e3e905, 0xfcefa3f8, 0x676f02d9, 0x8d2a4c8a,
    0xfffa3942, 0x8771f681, 0x6d9d6122, 0xfde5380c, 0xa4beea44, 0x4bdecfa9, 0xf6bb4b60, 0xbebfbc70,
    0x289b7ec6, 0xeaa127fa, 0xd4ef3085, 0x04881d05, 0xd9d4d039, 0xe6db99e5, 0x1fa27cf8, 0xc4ac5665,
    0xf4292244, 0x432aff97, 0xab9423a7, 0xfc93a039, 0x655b59c3, 0x8f0ccc92, 0xffeff47d, 0x85845dd1,
    0x6fa87e4f, 0xfe2ce6e0, 0xa3014314, 0x4e0811a1, 0xf7537e82, 0xbd3af235, 0x2ad7d2bb, 0xeb86d391]

/-- How far its rounds turn words, four counts for each quarter of them. -/
def turns : List (List UInt32) := [[7, 12, 17, 22], [5, 9, 14, 20], [4, 11, 16, 23], [6, 10, 15, 21]]

/-- Works a block in by rounds. -/
def mixed (block : List UInt32) (state : List UInt32) : List UInt32 :=
  added state ((sines.zipIdx).foldl (fun words (sine, round) =>
    match words with
    | [a, b, c, d] =>
      let quarter := round / 16
      let (value, place) : UInt32 × Nat := match quarter with
        | 0 => ((b &&& c) ||| (~~~b &&& d), round)
        | 1 => ((d &&& b) ||| (~~~d &&& c), (5 * round + 1) % 16)
        | 2 => (b ^^^ c ^^^ d, (3 * round + 5) % 16)
        | _ => (c ^^^ (b ||| ~~~d), (7 * round) % 16)
      let count := (((turns[quarter]?).getD [])[round % 4]?).getD 0
      [d, b + turned (a + value + sine + (block[place]?).getD 0) count, b, c]
    | words => words) state)

/-- The digest of 128 bits of a message. -/
def ofMessage (message : List UInt8) : String :=
  shown false ((blocksOf false message).foldl (fun state block => mixed block state)
    [0x67452301, 0xefcdab89, 0x98badcfe, 0x10325476])

/-! ### The secure digest of 160 bits -/

/-- More words made of those of a block, the last word first. -/
def stretched : Nat → List UInt32 → List UInt32
  | 0, words => words
  | count + 1, words =>
    let before (back : Nat) : UInt32 := (words[back - 1]?).getD 0
    stretched count (turned (before 3 ^^^ before 8 ^^^ before 14 ^^^ before 16) 1 :: words)

/-- The secure digest of 160 bits of a message. -/
def secureShort (message : List UInt8) : String :=
  shown true ((blocksOf true message).foldl (fun state block =>
    added state ((((stretched 64 block.reverse).reverse).zipIdx).foldl (fun words (word, round) =>
      match words with
      | [a, b, c, d, e] =>
        let (value, constant) : UInt32 × UInt32 := match round / 20 with
          | 0 => ((b &&& c) ||| (~~~b &&& d), 0x5a827999)
          | 1 => (b ^^^ c ^^^ d, 0x6ed9eba1)
          | 2 => ((b &&& c) ||| (b &&& d) ||| (c &&& d), 0x8f1bbcdc)
          | _ => (b ^^^ c ^^^ d, 0xca62c1d6)
        [turned a 5 + value + e + constant + word, a, turned b 30, c, d]
      | words => words) state))
    [0x67452301, 0xefcdab89, 0x98badcfe, 0x10325476, 0xc3d2e1f0])

/-! ### The secure digest of 256 bits -/

/-- The constants of its rounds. -/
def roots : List UInt32 :=
  [0x428a2f98, 0x71374491, 0xb5c0fbcf, 0xe9b5dba5, 0x3956c25b, 0x59f111f1, 0x923f82a4, 0xab1c5ed5,
    0xd807aa98, 0x12835b01, 0x243185be, 0x550c7dc3, 0x72be5d74, 0x80deb1fe, 0x9bdc06a7, 0xc19bf174,
    0xe49b69c1, 0xefbe4786, 0x0fc19dc6, 0x240ca1cc, 0x2de92c6f, 0x4a7484aa, 0x5cb0a9dc, 0x76f988da,
    0x983e5152, 0xa831c66d, 0xb00327c8, 0xbf597fc7, 0xc6e00bf3, 0xd5a79147, 0x06ca6351, 0x14292967,
    0x27b70a85, 0x2e1b2138, 0x4d2c6dfc, 0x53380d13, 0x650a7354, 0x766a0abb, 0x81c2c92e, 0x92722c85,
    0xa2bfe8a1, 0xa81a664b, 0xc24b8b70, 0xc76c51a3, 0xd192e819, 0xd6990624, 0xf40e3585, 0x106aa070,
    0x19a4c116, 0x1e376c08, 0x2748774c, 0x34b0bcb5, 0x391c0cb3, 0x4ed8aa4a, 0x5b9cca4f, 0x682e6ff3,
    0x748f82ee, 0x78a5636f, 0x84c87814, 0x8cc70208, 0x90befffa, 0xa4506ceb, 0xbef9a3f7, 0xc67178f2]

/-- Turns a word to the right. -/
def turnedBack (word : UInt32) (count : UInt32) : UInt32 := turned word (32 - count)

/-- More words made of those of a block, the last word first. -/
def spread : Nat → List UInt32 → List UInt32
  | 0, words => words
  | count + 1, words =>
    let before (back : Nat) : UInt32 := (words[back - 1]?).getD 0
    let early := turnedBack (before 15) 7 ^^^ turnedBack (before 15) 18 ^^^ (before 15 >>> 3)
    let late := turnedBack (before 2) 17 ^^^ turnedBack (before 2) 19 ^^^ (before 2 >>> 10)
    spread count ((before 16 + early + before 7 + late) :: words)

/-- The secure digest of 256 bits of a message. -/
def secureLong (message : List UInt8) : String :=
  shown true ((blocksOf true message).foldl (fun state block =>
    added state ((((spread 48 block.reverse).reverse).zip roots).foldl (fun words (word, root) =>
      match words with
      | [a, b, c, d, e, f, g, h] =>
        let first := h + (turnedBack e 6 ^^^ turnedBack e 11 ^^^ turnedBack e 25) +
          ((e &&& f) ^^^ (~~~e &&& g)) + root + word
        let second := (turnedBack a 2 ^^^ turnedBack a 13 ^^^ turnedBack a 22) +
          ((a &&& b) ^^^ (a &&& c) ^^^ (b &&& c))
        [first + second, a, b, c, d + first, e, f, g]
      | words => words) state))
    [0x6a09e667, 0xbb67ae85, 0x3c6ef372, 0xa54ff53a, 0x510e527f, 0x9b05688c, 0x1f83d9ab, 0x5be0cd19])

end DecompileServer.Program.Digest

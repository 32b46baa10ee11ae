/-!
# UTF-8

Bytes become text in two ways. `Utf8.decode` accepts well-formed UTF-8 only and says where and how
the first fault shows; `Utf8.decodeLossy` puts one replacement character in the place of each
longest piece that could still have begun a character. Both run the same machine, one byte at a
time: between characters it reads a leading byte, and inside a character it knows how many bytes
are owed and in which range the next one has to lie.
-/
namespace DecompileServer.Utf8

/-- A character that has begun but is not complete. -/
structure Pending where
  /-- The bits read so far. -/
  value : Nat
  /-- The bytes read so far. -/
  length : Nat
  /-- The bytes still owed, less one. -/
  further : Nat
  /-- The least value of the next byte. -/
  low : UInt8 := 0x80
  /-- The greatest value of the next byte. -/
  high : UInt8 := 0xBF
  deriving DecidableEq, Repr

/-- What a byte does to the machine. -/
inductive Step where
  /-- The byte completes a character. -/
  | character (value : Char)
  /-- The byte begins or continues a character. -/
  | more (pending : Pending)
  /-- No character contains the byte at this place. -/
  | refused
  deriving DecidableEq, Repr

/-- Reads the first byte of a character. -/
def leading (byte : UInt8) : Step :=
  if byte < 0x80 then .character (Char.ofNat byte.toNat)
  else if byte < 0xC2 then .refused
  else if byte < 0xE0 then .more { value := byte.toNat - 0xC0, length := 1, further := 0 }
  else if byte < 0xF0 then
    .more { value := byte.toNat - 0xE0, length := 1, further := 1,
            low := if byte == 0xE0 then 0xA0 else 0x80,
            high := if byte == 0xED then 0x9F else 0xBF }
  else if byte < 0xF5 then
    .more { value := byte.toNat - 0xF0, length := 1, further := 2,
            low := if byte == 0xF0 then 0x90 else 0x80,
            high := if byte == 0xF4 then 0x8F else 0xBF }
  else .refused

/-- Reads a byte inside a character. -/
def Pending.next (pending : Pending) (byte : UInt8) : Step :=
  if pending.low ≤ byte ∧ byte ≤ pending.high then
    let value := pending.value * 64 + (byte.toNat - 0x80)
    match pending.further with
    | 0 => .character (Char.ofNat value)
    | further + 1 => .more { value, length := pending.length + 1, further }
  else .refused

/-- Why bytes are not UTF-8. -/
inductive Fault where
  /-- The `length` bytes from `index` begin no character. -/
  | invalid (length index : Nat)
  /-- The bytes end inside the character that begins at `index`. -/
  | incomplete (index : Nat)
  deriving DecidableEq, Repr

/-- The wording of a fault. -/
def Fault.message : Fault → String
  | .invalid length index => s!"invalid utf-8 sequence of {length} bytes from index {index}"
  | .incomplete index => s!"incomplete utf-8 byte sequence from index {index}"

/-- Decodes with `done` the characters before, last first, and `index` the place of the character
that is being read. -/
def decodeFrom (done : List Char) (index : Nat) (pending : Option Pending) :
    List UInt8 → Except Fault (List Char)
  | [] =>
    match pending with
    | none => .ok done.reverse
    | some _ => .error (.incomplete index)
  | byte :: rest =>
    match pending with
    | none =>
      match leading byte with
      | .character value => decodeFrom (value :: done) (index + 1) none rest
      | .more begun => decodeFrom done index (some begun) rest
      | .refused => .error (.invalid 1 index)
    | some begun =>
      match begun.next byte with
      | .character value => decodeFrom (value :: done) (index + begun.length + 1) none rest
      | .more further => decodeFrom done index (some further) rest
      | .refused => .error (.invalid begun.length index)

/-- The text of well-formed UTF-8, or its first fault. -/
def decode (bytes : List UInt8) : Except Fault String :=
  (decodeFrom [] 0 none bytes).map String.ofList

/-- The character that stands for bytes which encode none. -/
def replacement : Char := '\uFFFD'

/-- Decodes with `done` the characters before, last first, replacing each malformed piece. -/
def decodeLossyFrom (done : List Char) (pending : Option Pending) : List UInt8 → List Char
  | [] =>
    match pending with
    | none => done.reverse
    | some _ => (replacement :: done).reverse
  | byte :: rest =>
    -- A byte that a begun character refuses ends that piece and is read again as a leading byte.
    let (done, step) :=
      match pending with
      | none => (done, leading byte)
      | some begun =>
        match begun.next byte with
        | .refused => (replacement :: done, leading byte)
        | step => (done, step)
    match step with
    | .character value => decodeLossyFrom (value :: done) none rest
    | .more begun => decodeLossyFrom done (some begun) rest
    | .refused => decodeLossyFrom (replacement :: done) none rest

/-- The text of any bytes, with one replacement character for each malformed piece. -/
def decodeLossy (bytes : List UInt8) : String :=
  String.ofList (decodeLossyFrom [] none bytes)

/-- The bytes of a text. -/
def encode (text : String) : List UInt8 :=
  text.toList.flatMap String.utf8EncodeChar

end DecompileServer.Utf8

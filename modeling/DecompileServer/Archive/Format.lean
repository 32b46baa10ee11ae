import DecompileServer.Archive.Codepage
import DecompileServer.Archive.Entry
import DecompileServer.Text.Utf8

/-!
# The layout of archives

An archive is read from its end. The end record says where the directory is and how many entries it
has; the directory gives the names, sizes and checksums of the entries and where each begins; and a
short header stands before the data of each entry. Bytes before the archive shift all offsets, which
the distance between the directory and the end record shows. Archives that outgrow the fields of
the end record have a larger one before it.
-/
namespace DecompileServer.Archive

/-- The number that bytes write, the least significant first. -/
def littleEndian (bytes : List UInt8) : Nat :=
  bytes.foldr (fun byte value => byte.toNat + 256 * value) 0

/-- A computation that takes bytes from the front. -/
abbrev Scan (α : Type) := StateT (List UInt8) (Except Fault) α

namespace Scan

/-- Takes the next `count` bytes. -/
def take (count : Nat) : Scan (List UInt8) := fun bytes =>
  let taken := bytes.take count
  if taken.length = count then .ok (taken, bytes.drop count) else .error .endsEarly

/-- Takes a number of `width` bytes. -/
def number (width : Nat) : Scan Nat :=
  littleEndian <$> take width

end Scan

/-- The last offset from which bytes can be sought. -/
def seekLimit : Nat := 0x8000000000000000

/-- The offset from which on no offset fits in its field. -/
def offsetLimit : Nat := 0x10000000000000000

/-- Runs a scan from an offset. -/
def scanAt {α : Type} (bytes : List UInt8) (offset : Nat) (scan : Scan α) : Except Fault α :=
  if seekLimit ≤ offset then .error .unreachable
  else (scan.run (bytes.drop offset)).map (·.1)

/-- The record at the end of an archive. -/
structure EndRecord where
  /-- The number of this disk. -/
  disk : Nat
  /-- The number of the disk with the directory. -/
  directoryDisk : Nat
  /-- The number of entries on this disk. -/
  entriesHere : Nat
  /-- The number of entries. -/
  entries : Nat
  /-- The size of the directory. -/
  directorySize : Nat
  /-- The offset of the directory. -/
  directoryOffset : Nat
  /-- The size of the comment after the record. -/
  commentSize : Nat

/-- The size of an end record without its comment. -/
def endRecordSize : Nat := 22

/-- The number that begins an end record. -/
def endSignature : List UInt8 := [0x50, 0x4B, 0x05, 0x06]

/-- Reads an end record. -/
def scanEndRecord : Scan EndRecord := do
  let _ ← Scan.take 4
  let disk ← Scan.number 2
  let directoryDisk ← Scan.number 2
  let entriesHere ← Scan.number 2
  let entries ← Scan.number 2
  let directorySize ← Scan.number 4
  let directoryOffset ← Scan.number 4
  let commentSize ← Scan.number 2
  let _ ← Scan.take commentSize
  pure { disk, directoryDisk, entriesHere, entries, directorySize, directoryOffset, commentSize }

/-- Whether a field of the record is at its limit, so that a larger record may hold its value. -/
def EndRecord.isFull (record : EndRecord) : Bool :=
  record.disk == 0xFFFF || record.directoryDisk == 0xFFFF || record.entriesHere == 0xFFFF ||
    record.entries == 0xFFFF || record.directorySize == 0xFFFFFFFF ||
    record.directoryOffset == 0xFFFFFFFF

/-- The offset of the last signature of an end record with room for one after it, where `offset` is
that of the bytes given and `left` their number. -/
def lastEndSignature (offset left : Nat) (found : Option Nat) : List UInt8 → Option Nat
  | [] => found
  | byte :: rest =>
    if left < endRecordSize then found
    else
      lastEndSignature (offset + 1) (left - 1)
        (if endSignature.isPrefixOf (byte :: rest) then some offset else found) rest

/-- The offset of the end record and what it says. Only the last 65,557 bytes are searched. -/
def findEndRecord (bytes : List UInt8) : Except Fault (Nat × EndRecord) :=
  let size := bytes.length
  let start := size - (endRecordSize + 0xFFFF)
  if size < endRecordSize then .error (.malformed .tooShort)
  else
    match lastEndSignature start (size - start) none (bytes.drop start) with
    | none => .error (.malformed .noEndRecord)
    | some offset => do
      let record ← scanAt bytes offset scanEndRecord
      pure (offset, record)

/-- Where the directory of an archive is. -/
structure Directory where
  /-- The number of bytes before the archive. -/
  shift : Nat
  /-- The offset of the first entry. -/
  start : Nat
  /-- The number of entries. -/
  count : Nat

/-- The record that leads to the larger end record. -/
structure Locator where
  /-- The number of the disk with the directory. -/
  directoryDisk : Nat
  /-- The offset of the larger end record, without the shift. -/
  offset : Nat

/-- Reads the record before the end record, if it leads to a larger one. -/
def scanLocator : Scan (Option Locator) := do
  let signature ← Scan.take 4
  if signature ≠ [0x50, 0x4B, 0x06, 0x07] then pure none
  else
    let directoryDisk ← Scan.number 4
    let offset ← Scan.number 8
    let _ ← Scan.take 4
    pure (some { directoryDisk, offset })

/-- The number of bytes from the locator to the end, without the comment. -/
def locatorDistance : Nat := 20 + endRecordSize

/-- The locator, if there is one. -/
def findLocator (bytes : List UInt8) (record : EndRecord) : Except Fault (Option Locator) :=
  let distance := locatorDistance + record.commentSize
  if bytes.length < distance then .ok none
  else scanAt bytes (bytes.length - distance) scanLocator

/-- What the larger end record says. -/
structure LargeEndRecord where
  /-- The number of this disk. -/
  disk : Nat
  /-- The number of the disk with the directory. -/
  directoryDisk : Nat
  /-- The number of entries. -/
  entries : Nat
  /-- The offset of the directory. -/
  directoryOffset : Nat

/-- Reads the larger end record after its signature. -/
def scanLargeEndRecord : Scan LargeEndRecord := do
  let _ ← Scan.take 12
  let disk ← Scan.number 4
  let directoryDisk ← Scan.number 4
  let _ ← Scan.take 8
  let entries ← Scan.number 8
  let _ ← Scan.take 8
  let directoryOffset ← Scan.number 8
  pure { disk, directoryDisk, entries, directoryOffset }

/-- Searches the larger end record in `tries` places from an offset on. -/
def findLargeEndRecord (bytes : List UInt8) (offset : Nat) :
    Nat → Except Fault (Nat × LargeEndRecord)
  | 0 => .error (.malformed .noLargeEndRecord)
  | tries + 1 => do
    let signature ← scanAt bytes offset (Scan.take 4)
    if signature = [0x50, 0x4B, 0x06, 0x06] then
      let record ← scanAt bytes (offset + 4) scanLargeEndRecord
      pure (offset, record)
    else findLargeEndRecord bytes (offset + 1) tries

/-- The size of the larger end record with the locator. -/
def largeEndSize : Nat := 60

/-- Where the directory is. -/
def findDirectory (bytes : List UInt8) : Except Fault Directory := do
  let (offset, record) ← findEndRecord bytes
  if !record.isFull && record.disk ≠ record.directoryDisk then throw (.unsupported .severalDisks)
  match ← findLocator bytes record with
  | none =>
    let before := record.directorySize + record.directoryOffset
    if offset < before then throw (.malformed .directoryOutOfPlace)
    let shift := offset - before
    pure { shift, start := record.directoryOffset + shift, count := record.entriesHere }
  | some locator =>
    if !record.isFull && record.disk ≠ locator.directoryDisk then
      throw (.unsupported .severalDisks)
    if offset < largeEndSize then throw (.malformed .noRoomForLargeEnd)
    let (found, large) ←
      findLargeEndRecord bytes locator.offset (offset - largeEndSize + 1 - locator.offset)
    if large.disk ≠ large.directoryDisk then throw (.unsupported .severalDisks)
    let shift := found - locator.offset
    if offsetLimit ≤ large.directoryOffset + shift then throw (.malformed .directoryOutOfPlace)
    pure { shift, start := large.directoryOffset + shift, count := large.entries }

/-- What the directory says of an entry. -/
structure Record where
  /-- Whether the entry is encrypted. -/
  encrypted : Bool
  /-- The number of the method by which it is compressed. -/
  method : Nat
  /-- The checksum of its content. -/
  checksum : UInt32
  /-- The size of its data. -/
  packedSize : Nat
  /-- The size of its content. -/
  size : Nat
  /-- The offset of its header. -/
  start : Nat
  /-- Whether it is marked with how it is encrypted. -/
  marked : Bool

/-- The value of a field at its limit, which stands for a larger value elsewhere. -/
def fieldLimit : Nat := 0xFFFFFFFF

/-- The field that holds the mark of an encrypted entry. -/
def scanMark (record : Record) (length : Nat) : Scan Record := do
  if length ≠ 7 then throw (.unsupported .encryptionMark)
  let version ← Scan.number 2
  let vendor ← Scan.number 2
  let strength ← Scan.number 1
  let method ← Scan.number 2
  if vendor ≠ 0x4541 then throw (.malformed .encryptionVendor)
  if version ≠ 1 ∧ version ≠ 2 then throw (.malformed .encryptionVersion)
  if strength = 0 ∨ 3 < strength then throw (.malformed .encryptionStrength)
  pure { record with method, marked := true }

/-- Takes a larger value for a field at its limit. The flag says whether it was. -/
def scanLarge (value : Nat) : Scan (Bool × Nat) := do
  if value = fieldLimit then
    let larger ← Scan.number 8
    pure (true, larger)
  else pure (false, value)

/-- Reads the further fields of an entry into its record. A field that ends early ends them. -/
def scanFields : Nat → Record → List UInt8 → Except Fault Record
  | 0, record, _ => .ok record
  | limit + 1, record, bytes =>
    if bytes = [] then .ok record
    else
      let header : Scan (Nat × Nat) := do
        let kind ← Scan.number 2
        let length ← Scan.number 2
        pure (kind, length)
      match header.run bytes with
      | .error _ => .ok record
      | .ok ((kind, length), rest) =>
        if kind = 0x0001 then
          -- Values that are read before the field ends early are kept.
          match (scanLarge record.size).run rest with
          | .error _ => .ok record
          | .ok ((sizeRead, size), rest) =>
            let record := { record with size }
            match (scanLarge record.packedSize).run rest with
            | .error _ => .ok record
            | .ok ((packedRead, packedSize), rest) =>
              let record := { record with packedSize }
              match (scanLarge record.start).run rest with
              | .error _ => .ok record
              | .ok ((startRead, start), rest) =>
                let record := { record with start }
                let used := 8 * ([sizeRead, packedRead, startRead].filter id).length
                scanFields limit record (rest.drop (length - used))
        else if kind = 0x9901 then
          match (scanMark record length).run rest with
          | .error .endsEarly => .ok record
          | .error fault => .error fault
          | .ok (record, rest) => scanFields limit record (rest.drop length)
        else scanFields limit record (rest.drop length)

/-- Reads an entry of the directory: its name and record. -/
def scanRecord (shift : Nat) : Scan (String × Record) := do
  let signature ← Scan.take 4
  if signature ≠ [0x50, 0x4B, 0x01, 0x02] then throw (.malformed .directoryEntry)
  let _ ← Scan.take 4
  let flags ← Scan.number 2
  let method ← Scan.number 2
  let _ ← Scan.take 4
  let checksum ← Scan.number 4
  let packedSize ← Scan.number 4
  let size ← Scan.number 4
  let nameSize ← Scan.number 2
  let fieldsSize ← Scan.number 2
  let commentSize ← Scan.number 2
  let _ ← Scan.take 8
  let start ← Scan.number 4
  let name ← Scan.take nameSize
  let fields ← Scan.take fieldsSize
  let _ ← Scan.take commentSize
  let record : Record :=
    { encrypted := flags.testBit 0, method, checksum := UInt32.ofNat checksum, packedSize, size, start,
      marked := false }
  let record ← scanFields (fields.length + 1) record fields
  if record.method = 99 ∧ !record.marked then throw (.malformed .encryptionUnmarked)
  if offsetLimit ≤ record.start + shift then throw (.malformed .offsetTooLarge)
  pure (if flags.testBit 11 then Utf8.decodeLossy name else Codepage.decode name,
    { record with start := record.start + shift })

/-- Reads the entries of the directory. -/
def scanRecords (shift : Nat) : Nat → Scan (List (String × Record))
  | 0 => pure []
  | count + 1 => do
    let first ← scanRecord shift
    let further ← scanRecords shift count
    pure (first :: further)

/-- Passes over the header of an entry; gives the distance from its start to the data. -/
def scanLocalHeader : Scan Nat := do
  let signature ← Scan.take 4
  if signature ≠ [0x50, 0x4B, 0x03, 0x04] then throw (.malformed .localHeader)
  modify (·.drop 22)
  let nameSize ← Scan.number 2
  let fieldsSize ← Scan.number 2
  pure (30 + nameSize + fieldsSize)

/-- The way in which data are stored. -/
def methodOf (number : Nat) : Except Fault Method :=
  if number = 0 then .ok .stored
  else if number = 8 then .ok .deflated
  else .error (.unsupported .compression)

/-- The data of an entry. -/
def packedOf (bytes : List UInt8) (record : Record) : Except Fault Packed := do
  if record.encrypted then throw (.unsupported .encryption)
  let distance ← scanAt bytes record.start scanLocalHeader
  let start := record.start + distance
  if seekLimit ≤ start then throw .unreachable
  let method ← methodOf record.method
  if record.marked then throw .contradictory
  pure { method, bytes := (bytes.drop start).take record.packedSize, checksum := record.checksum }

/-- The archive that bytes hold. -/
def ofBytes (bytes : List UInt8) : Except Fault Contents := do
  let directory ← findDirectory bytes
  if seekLimit ≤ directory.start then throw (.malformed .directoryUnreachable)
  -- Each entry takes bytes, so a count beyond their number fails as soon as they run out.
  let records ← scanAt bytes directory.start (scanRecords directory.shift directory.count)
  pure ⟨records.map fun (name, record) => ⟨name, packedOf bytes record⟩⟩

end DecompileServer.Archive

/-!
# The checksum of archives

The cyclic redundancy check of 32 bits with the reflected polynomial `EDB88320`, least significant
bit first.
-/
namespace DecompileServer.Archive

/-- Divides out one bit. -/
def checksumBit (register : UInt32) : UInt32 :=
  if register &&& 1 = 1 then (register >>> 1) ^^^ 0xEDB88320 else register >>> 1

/-- Divides out the low byte. -/
def checksumByte (register : UInt32) (byte : UInt8) : UInt32 :=
  Nat.repeat checksumBit 8 (register ^^^ UInt32.ofNat byte.toNat)

/-- The checksum of bytes. -/
def checksum (bytes : List UInt8) : UInt32 :=
  (bytes.foldl checksumByte 0xFFFFFFFF) ^^^ 0xFFFFFFFF

end DecompileServer.Archive

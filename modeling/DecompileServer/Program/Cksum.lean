/-!
# The checksum of a file

The cyclic redundancy check of 32 bits with the polynomial `04C11DB7`, most significant bit first,
over the bytes and then over their number, its least significant byte first.
-/
namespace DecompileServer.Program

/-- Divides out one bit. -/
def cksumBit (register : UInt32) : UInt32 :=
  if register &&& 0x80000000 ≠ 0 then (register <<< 1) ^^^ 0x04C11DB7 else register <<< 1

/-- Divides out one byte. -/
def cksumByte (register : UInt32) (byte : UInt8) : UInt32 :=
  Nat.repeat cksumBit 8 (register ^^^ (UInt32.ofNat byte.toNat <<< 24))

/-- The bytes of a number, the least significant first, without zeros at the end. -/
def numberBytes (value : Nat) : List UInt8 :=
  if value = 0 then [] else UInt8.ofNat (value % 256) :: numberBytes (value / 256)

/-- The checksum of bytes. -/
def cksum (bytes : List UInt8) : UInt32 :=
  ((bytes ++ numberBytes bytes.length).foldl cksumByte 0) ^^^ 0xFFFFFFFF

end DecompileServer.Program

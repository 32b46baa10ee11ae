import DecompileServer.Text.Utf8

/-!
# Octets as characters

Programs pass bytes to each other that need not be text. Where they are looked at one by one, a byte
is written as the character of the same number, so that any bytes make a string.
-/
namespace DecompileServer.Program

/-- The character of a byte. -/
def ofOctet (byte : UInt8) : Char := Char.ofNat byte.toNat

/-- The byte of a character; of one beyond the bytes, the low part of its number. -/
def toOctet (character : Char) : UInt8 := UInt8.ofNat character.toNat

/-- The characters of bytes. -/
def ofOctets (bytes : List UInt8) : List Char := bytes.map ofOctet

/-- The bytes of characters. -/
def toOctets (characters : List Char) : List UInt8 := characters.map toOctet

/-- The octets of a text. -/
def octetsOf (text : String) : String := String.ofList (ofOctets (Utf8.encode text))

/-- The text that octets write; what is no text is replaced. -/
def textOf (octets : String) : String := Utf8.decodeLossy (toOctets octets.toList)

end DecompileServer.Program

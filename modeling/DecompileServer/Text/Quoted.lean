import DecompileServer.Text.Unseen

/-!
# Quoted text in messages

A text that comes from outside is shown between double quotes. The quote, the backslash and four
controls have short escapes, every other unseen character is written by its code in lowercase
hexadecimal, and all else stands for itself.
-/
namespace DecompileServer.Text

/-- The digits of a number in lowercase hexadecimal. -/
def hexadecimal (value : Nat) : List Char :=
  Nat.toDigits 16 value

/-- The form of one character inside quotes. -/
def quoteCharacter (character : Char) : List Char :=
  match character with
  | '"' => ['\\', '"']
  | '\\' => ['\\', '\\']
  | '\n' => ['\\', 'n']
  | '\r' => ['\\', 'r']
  | '\t' => ['\\', 't']
  | '\x00' => ['\\', '0']
  | _ =>
    if isUnseen character then ['\\', 'u', '\x7b'] ++ hexadecimal character.toNat ++ ['\x7d']
    else [character]

/-- The text between double quotes, with escapes. -/
def quote (text : String) : String :=
  String.ofList (['"'] ++ text.toList.flatMap quoteCharacter ++ ['"'])

end DecompileServer.Text

import DecompileServer.Json.Value
import DecompileServer.Text.Quoted

/-!
# Writing JSON

Values are written without white space. In strings the quote, the backslash and the controls below
the space are escaped, and everything else stands for itself.
-/
namespace DecompileServer.Json

/-- The form of a character inside a string. -/
def escapeCharacter (character : Char) : List Char :=
  match character with
  | '"' => ['\\', '"']
  | '\\' => ['\\', '\\']
  | '\x08' => ['\\', 'b']
  | '\t' => ['\\', 't']
  | '\n' => ['\\', 'n']
  | '\x0c' => ['\\', 'f']
  | '\r' => ['\\', 'r']
  | _ =>
    if character.toNat < 0x20 then
      ['\\', 'u', '0', '0', Nat.digitChar (character.toNat / 16), Nat.digitChar (character.toNat % 16)]
    else [character]

/-- A string with its quotes. -/
def stringCharacters (text : String) : List Char :=
  '"' :: (text.toList.flatMap escapeCharacter ++ ['"'])

/-- The characters of a number. -/
def Number.characters : Number → List Char
  | .integer value _ => (toString value).toList
  | .double value => value.text.toList

namespace Value

mutual

/-- The characters of a value. -/
def characters : Value → List Char
  | .null => ['n', 'u', 'l', 'l']
  | .boolean true => ['t', 'r', 'u', 'e']
  | .boolean false => ['f', 'a', 'l', 's', 'e']
  | .number value => value.characters
  | .string value => stringCharacters value
  | .array elements => '[' :: (elementCharacters elements ++ [']'])
  | .object members => '\x7b' :: (memberCharacters members ++ ['\x7d'])

/-- The characters of the elements of an array, with commas between them. -/
def elementCharacters : List Value → List Char
  | [] => []
  | [only] => characters only
  | first :: second :: further =>
    characters first ++ ',' :: elementCharacters (second :: further)

/-- The characters of the members of an object, with commas between them. -/
def memberCharacters : List (String × Value) → List Char
  | [] => []
  | [(key, only)] => stringCharacters key ++ ':' :: characters only
  | (key, first) :: second :: further =>
    stringCharacters key ++ ':' :: (characters first ++ ',' :: memberCharacters (second :: further))

end

/-- The text of a value. -/
def text (value : Value) : String :=
  String.ofList value.characters

end Value

end DecompileServer.Json

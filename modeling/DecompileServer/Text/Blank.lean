/-!
# White space

The characters of the Unicode property `White_Space`, and the removal of them at both ends of a
text.
-/
namespace DecompileServer.Text

/-- Whether a character is white space in the sense of Unicode. -/
def isBlank (character : Char) : Bool :=
  let code := character.toNat
  (0x09 ≤ code && code ≤ 0x0D) || code == 0x20 || code == 0x85 || code == 0xA0 || code == 0x1680 ||
    (0x2000 ≤ code && code ≤ 0x200A) || code == 0x2028 || code == 0x2029 || code == 0x202F ||
    code == 0x205F || code == 0x3000

/-- The characters without white space at the front. -/
def dropBlank (characters : List Char) : List Char :=
  characters.dropWhile isBlank

/-- The characters without white space at either end. -/
def trimBlank (characters : List Char) : List Char :=
  (dropBlank (dropBlank characters).reverse).reverse

/-- The text without white space at either end. -/
def trim (text : String) : String :=
  String.ofList (trimBlank text.toList)

/-- Whether a text holds white space only. -/
def isBlankText (text : String) : Bool :=
  text.toList.all isBlank

end DecompileServer.Text

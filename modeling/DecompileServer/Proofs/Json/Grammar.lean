import DecompileServer.Json.Draft
import DecompileServer.Text.Pieces
import Mathlib.Algebra.Order.Field.Power
import Mathlib.Algebra.Order.Field.Rat
import Mathlib.Data.List.Basic

/-!
# The grammar of JSON

Which characters write which value, stated without a reader. A value may be written in many ways:
with white space between its pieces, with escapes in its strings, and with digits that make no
difference. A text is JSON if it is a value with white space around it, no more than `depthLimit`
brackets and braces are inside one another and every number is in range (`IsText`). A number that is
no integer is a double (`Decimal.HasSize`): that of as many leading digits as fit in 64 bits, times
or over that of a power of ten.
-/
namespace DecompileServer.Json

/-- Whether characters are white space. -/
def AreSpaces (characters : List Char) : Prop :=
  ∀ character ∈ characters, character ∈ [' ', '\t', '\n', '\r']

instance (characters : List Char) : Decidable (AreSpaces characters) :=
  List.decidableBAll _ _

namespace Double

/-- The number that a double without its sign is, by its bits: a fraction and a power of two. Bits
that are too large for a double go on in the same way. -/
def magnitude (bits : Nat) : ℚ :=
  let exponent : Nat := bits / 2 ^ 52
  let fraction : Nat := bits % 2 ^ 52
  if exponent = 0 then fraction * 2 ^ (-1074 : ℤ)
  else (2 ^ 52 + fraction) * 2 ^ ((exponent : ℤ) - 1075)

/-- Whether all other bits are farther from a number, or as far and these are the even ones. -/
def IsNearest (exact : ℚ) (bits : Nat) : Prop :=
  ∀ other ≠ bits, |magnitude bits - exact| < |magnitude other - exact| ∨
    |magnitude bits - exact| = |magnitude other - exact| ∧ bits % 2 = 0

/-- Whether bits are those of a double over a power of ten. The greatest power that is a double is
divided by as long as a greater one is needed. -/
inductive IsShrunk : Nat → Nat → Nat → Prop where
  /-- The power is a double. -/
  | last {value exponent power quotient : Nat} (small : exponent ≤ 308)
      (isPower : IsNearest (10 ^ exponent) power)
      (rounded : IsNearest (magnitude value / magnitude power) quotient) :
      IsShrunk value exponent quotient
  /-- The power is too large. -/
  | further {value exponent power next quotient : Nat} (large : 308 < exponent)
      (isPower : IsNearest (10 ^ 308) power)
      (rounded : IsNearest (magnitude value / magnitude power) next)
      (rest : IsShrunk next (exponent - 308) quotient) : IsShrunk value exponent quotient

/-- Whether bits are those of an integer and a power of ten. -/
inductive IsScaled : Nat → Int → Nat → Prop where
  /-- The integer is multiplied, and the product is in range. -/
  | grown {significand exponent value power product : Nat} (read : IsNearest significand value)
      (small : exponent ≤ 308) (isPower : IsNearest (10 ^ exponent) power)
      (rounded : IsNearest (magnitude value * magnitude power) product)
      (finite : magnitude product < 2 ^ 1024) : IsScaled significand exponent product
  /-- The integer is divided. -/
  | shrunk {significand exponent value quotient : Nat} (read : IsNearest significand value)
      (positive : 0 < exponent) (divided : IsShrunk value exponent quotient) :
      IsScaled significand (-exponent) quotient

end Double

section Numbers

/-- Decimal digits, one at least. -/
structure Digits where
  /-- The characters. -/
  characters : List Char
  /-- There is one of them. -/
  nonempty : characters ≠ []
  /-- Each of them is a digit. -/
  each : ∀ character ∈ characters, character.isDigit = true

/-- The number that digits write. -/
def Digits.number (digits : Digits) : Nat :=
  Nat.ofDigitChars 10 digits.characters 0

/-- A power of ten, as it is written after the digits of a number. -/
structure Power where
  /-- The letter before it. -/
  letter : Char
  /-- The letter is one of two. -/
  isLetter : letter = 'e' ∨ letter = 'E'
  /-- The sign, which may be missing. -/
  sign : List Char
  /-- There are two signs. -/
  isSign : sign ∈ [[], ['+'], ['-']]
  /-- The digits. -/
  digits : Digits

namespace Power

/-- The characters of a power. -/
def characters (power : Power) : List Char :=
  power.letter :: (power.sign ++ power.digits.characters)

/-- The exponent of a power. -/
def exponent (power : Power) : Int :=
  if power.sign = ['-'] then -power.digits.number else power.digits.number

end Power

/-- A number, as it is written. -/
structure Decimal where
  /-- Whether it begins with a minus sign. -/
  isNegative : Bool
  /-- The digits before the point. -/
  whole : Digits
  /-- They do not begin with a zero that makes no difference. -/
  short : whole.characters.head? = some '0' → whole.characters = ['0']
  /-- The digits after the point, if there is one. -/
  fraction : Option Digits
  /-- The power of ten, if there is one. -/
  power : Option Power

namespace Decimal

/-- The characters after the digits before the point. -/
def tail (decimal : Decimal) : List Char :=
  (decimal.fraction.map fun digits => '.' :: digits.characters).getD [] ++
    (decimal.power.map Power.characters).getD []

/-- The characters after the sign. -/
def magnitude (decimal : Decimal) : List Char :=
  decimal.whole.characters ++ decimal.tail

/-- The characters of a number. -/
def characters (decimal : Decimal) : List Char :=
  (if decimal.isNegative then ['-'] else []) ++ decimal.magnitude

/-- The integer that the sign and the digits before the point write. -/
def integer (decimal : Decimal) : Int :=
  if decimal.isNegative then -decimal.whole.number else decimal.whole.number

/-- The exponent of the power of ten that is written. -/
def exponent (decimal : Decimal) : Int :=
  (decimal.power.map Power.exponent).getD 0

/-- Whether a number is an integer: it has neither a point nor a power of ten, is in the range of 64
bits with a sign or without, and is not written as minus zero. -/
def IsInteger (decimal : Decimal) : Prop :=
  decimal.fraction = none ∧ decimal.power = none ∧
    (-0x8000000000000000 ≤ decimal.integer ∧ decimal.integer < 0x10000000000000000) ∧
    ¬(decimal.isNegative = true ∧ decimal.whole.number = 0)

instance (decimal : Decimal) : Decidable decimal.IsInteger :=
  inferInstanceAs (Decidable (_ ∧ _ ∧ _ ∧ _))

/-- Whether digits after those of `before` are as many from the front of `digits` as fit in 64 bits
together with them. -/
structure AreTaken (before digits taken : List Char) : Prop where
  /-- They are from the front. -/
  front : taken <+: digits
  /-- They fit. -/
  fit : Nat.ofDigitChars 10 (before ++ taken) 0 < 0x10000000000000000
  /-- No more of them fit. -/
  most : ∀ more, more <+: digits → Nat.ofDigitChars 10 (before ++ more) 0 < 0x10000000000000000 →
    more.length ≤ taken.length

/-- Whether the leading digits of a number write an integer, with the exponent of ten that goes with
them before the one that is written. Digits before the point that do not fit are zeros. -/
def Leads (decimal : Decimal) (significand : Nat) (before : Int) : Prop :=
  ∃ whole fraction, AreTaken [] decimal.whole.characters whole ∧
    AreTaken whole ((decimal.fraction.map Digits.characters).getD []) fraction ∧
    significand = Nat.ofDigitChars 10 (whole ++ fraction) 0 ∧
    before = decimal.whole.characters.length - whole.length - fraction.length

/-- Whether bits are those of the double that is written, without its sign. -/
inductive HasSize (decimal : Decimal) : Nat → Prop where
  /-- Zero, with any power of ten. -/
  | zero {before : Int} (leads : decimal.Leads 0 before) : decimal.HasSize 0
  /-- The written power of ten is too small for any digits. -/
  | vanishing (tiny : decimal.exponent ≤ -0x80000000) : decimal.HasSize 0
  /-- The leading digits and their power of ten. -/
  | scaled {significand : Nat} {before : Int} {bits : Nat} (leads : decimal.Leads significand before)
      (moderate : -0x80000000 < decimal.exponent ∧ decimal.exponent < 0x80000000)
      (scaled : Double.IsScaled significand (before + decimal.exponent) bits) : decimal.HasSize bits

/-- Whether a number is the one that is written. There is none if it is out of range. -/
inductive Gives (decimal : Decimal) : Number → Prop where
  /-- An integer. -/
  | integer (known : decimal.IsInteger) (wide : isWide decimal.integer = true) :
      decimal.Gives (.integer decimal.integer wide)
  /-- A double, with the sign as its first bit. -/
  | double {bits : Nat} {double : Double} (other : ¬decimal.IsInteger) (size : decimal.HasSize bits)
      (signed : double.bits.toNat = (if decimal.isNegative then 2 ^ 63 else 0) + bits) :
      decimal.Gives (.double double)

end Decimal

/-- Whether characters write a number. -/
def WritesNumber (characters : List Char) (number : Number) : Prop :=
  ∃ decimal : Decimal, decimal.characters = characters ∧ decimal.Gives number

end Numbers

section Strings

/-- The letters that write a character after a backslash, with this character. -/
def letterEscapes : List (Char × Char) :=
  [('"', '"'), ('\\', '\\'), ('/', '/'), ('b', '\x08'), ('f', '\x0c'), ('n', '\n'), ('r', '\r'),
    ('t', '\t')]

/-- Whether a character is the hexadecimal digit of a number, a small letter or a capital one. -/
def IsHexDigit (character : Char) (digit : Nat) : Prop :=
  digit < 16 ∧ (character = Nat.digitChar digit ∨ character = (Nat.digitChar digit).toUpper)

/-- Whether characters are the four hexadecimal digits of a code. -/
def WritesCode (characters : List Char) (code : Nat) : Prop :=
  ∃ a b c d first second third fourth, characters = [a, b, c, d] ∧
    IsHexDigit a first ∧ IsHexDigit b second ∧ IsHexDigit c third ∧ IsHexDigit d fourth ∧
    code = ((first * 16 + second) * 16 + third) * 16 + fourth

/-- Whether characters write one character of a string. -/
inductive WritesCharacter : List Char → Char → Prop where
  /-- The character itself, if it is neither a quote nor a backslash nor a control. -/
  | plain {character : Char} (quote : character ≠ '"') (slash : character ≠ '\\')
      (visible : ¬character.toNat < 0x20) : WritesCharacter [character] character
  /-- A backslash and a letter. -/
  | letter {letter character : Char} (known : (letter, character) ∈ letterEscapes) :
      WritesCharacter ['\\', letter] character
  /-- The code of the character. -/
  | code {digits : List Char} {code : Nat} (written : WritesCode digits code)
      (whole : code < 0xD800 ∨ 0xE000 ≤ code) :
      WritesCharacter ('\\' :: 'u' :: digits) (Char.ofNat code)
  /-- The codes of the two halves of the character. -/
  | halves {upper lower : List Char} {high low : Nat} (writtenHigh : WritesCode upper high)
      (isHigh : 0xD800 ≤ high ∧ high < 0xDC00) (writtenLow : WritesCode lower low)
      (isLow : 0xDC00 ≤ low ∧ low < 0xE000) :
      WritesCharacter ('\\' :: 'u' :: (upper ++ '\\' :: 'u' :: lower))
        (Char.ofNat (0x10000 + (high - 0xD800) * 0x400 + (low - 0xDC00)))

/-- Whether characters write a string: one character after the other, between quotes. -/
def WritesString (characters : List Char) (text : String) : Prop :=
  ∃ pieces : List (List Char), List.Forall₂ WritesCharacter pieces text.toList ∧
    characters = '"' :: (pieces.flatten ++ ['"'])

end Strings

section Values

/-- A value where an element or a member stands, with white space around it. -/
structure Part where
  /-- The white space before the value. -/
  before : List Char
  /-- It is white space. -/
  blankBefore : AreSpaces before
  /-- The characters of the value. -/
  core : List Char
  /-- The white space after the value. -/
  after : List Char
  /-- It is white space. -/
  blankAfter : AreSpaces after
  /-- The value. -/
  value : Value

/-- The characters of a part. -/
def Part.characters (part : Part) : List Char :=
  part.before ++ (part.core ++ part.after)

/-- A member of an object: its key, a colon and its value. -/
structure Member where
  /-- The white space before the key. -/
  before : List Char
  /-- It is white space. -/
  blankBefore : AreSpaces before
  /-- The characters of the key. -/
  name : List Char
  /-- The key. -/
  key : String
  /-- The characters write the key. -/
  named : WritesString name key
  /-- The white space after the key. -/
  after : List Char
  /-- It is white space. -/
  blankAfter : AreSpaces after
  /-- What stands after the colon. -/
  part : Part

namespace Member

/-- The characters of a member. -/
def characters (member : Member) : List Char :=
  member.before ++ (member.name ++ (member.after ++ ':' :: member.part.characters))

/-- The key and the value. -/
def entry (member : Member) : String × Value :=
  (member.key, member.part.value)

end Member

/-- Whether characters are pieces with commas between them, or white space if there are none. -/
def AreSeparated (characters : List Char) (pieces : List (List Char)) : Prop :=
  if pieces = [] then AreSpaces characters else characters = Text.joinWith ',' pieces

/-- Whether characters write a value, with no more than the given number of brackets and braces
inside one another. -/
inductive Writes : Nat → List Char → Value → Prop where
  /-- The word for the value `null`. -/
  | null (room : Nat) : Writes room ['n', 'u', 'l', 'l'] .null
  /-- The word for what holds. -/
  | yes (room : Nat) : Writes room ['t', 'r', 'u', 'e'] (.boolean true)
  /-- The word for what does not hold. -/
  | no (room : Nat) : Writes room ['f', 'a', 'l', 's', 'e'] (.boolean false)
  /-- A number. -/
  | number (room : Nat) {core : List Char} {number : Number} (written : WritesNumber core number) :
      Writes room core (.number number)
  /-- A string. -/
  | string (room : Nat) {core : List Char} {text : String} (written : WritesString core text) :
      Writes room core (.string text)
  /-- An array. -/
  | array {room : Nat} {inside : List Char} {parts : List Part}
      (separated : AreSeparated inside (parts.map Part.characters))
      (each : ∀ part ∈ parts, Writes room part.core part.value) :
      Writes (room + 1) ('[' :: (inside ++ [']'])) (.array (parts.map Part.value))
  /-- An object; the last member of a key counts. -/
  | object {room : Nat} {inside : List Char} {members : List Member}
      (separated : AreSeparated inside (members.map Member.characters))
      (each : ∀ member ∈ members, Writes room member.part.core member.part.value) :
      Writes (room + 1) ('\x7b' :: (inside ++ ['\x7d'])) (.ofMembers (members.map Member.entry))

/-- Whether a text is the given characters with white space around them. -/
def IsPadded (text : String) (core : List Char) : Prop :=
  ∃ before after, text.toList = before ++ (core ++ after) ∧ AreSpaces before ∧ AreSpaces after

/-- Whether a text is JSON for a value. -/
def IsText (text : String) (value : Value) : Prop :=
  ∃ core, IsPadded text core ∧ Writes depthLimit core value

/-- Whether a text is JSON for an object with the given members, in the order of the text. -/
def IsObjectText (text : String) (entries : List (String × Value)) : Prop :=
  ∃ (inside : List Char) (members : List Member), IsPadded text ('\x7b' :: (inside ++ ['\x7d'])) ∧
    AreSeparated inside (members.map Member.characters) ∧
    (∀ member ∈ members, Writes (depthLimit - 1) member.part.core member.part.value) ∧
    entries = members.map Member.entry

end Values

end DecompileServer.Json

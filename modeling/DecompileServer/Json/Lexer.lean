import DecompileServer.Json.Value

/-!
# JSON tokens

A text is cut into punctuation, words, numbers and strings, with white space between them. The first
fault ends the tokens; whether the text is over or means nothing there is all that is kept of it.
-/
namespace DecompileServer.Json

/-- Why a text is not JSON. -/
inductive Fault where
  /-- The text ends too early. -/
  | ended
  /-- The text means nothing. -/
  | malformed
  deriving DecidableEq, Repr

/-- A piece of JSON text. -/
inductive Token where
  /-- The bracket that opens an array. -/
  | openArray
  /-- The bracket that closes an array. -/
  | closeArray
  /-- The brace that opens an object. -/
  | openObject
  /-- The brace that closes an object. -/
  | closeObject
  /-- A comma. -/
  | comma
  /-- A colon. -/
  | colon
  /-- The word `null`. -/
  | null
  /-- One of the words `true` and `false`. -/
  | boolean (value : Bool)
  /-- A number. -/
  | number (value : Number)
  /-- A string. -/
  | string (value : String)
  deriving DecidableEq

/-- Whether a character may stand between tokens. -/
def isSpace (character : Char) : Bool :=
  character == ' ' || character == '\t' || character == '\n' || character == '\r'

/-- The value of a hexadecimal digit. -/
def hexDigit? (character : Char) : Option Nat :=
  if '0' ≤ character ∧ character ≤ '9' then some (character.toNat - 48)
  else if 'a' ≤ character ∧ character ≤ 'f' then some (character.toNat - 87)
  else if 'A' ≤ character ∧ character ≤ 'F' then some (character.toNat - 55)
  else none

/-- Takes the number that four hexadecimal digits write. -/
def fourDigits (characters : List Char) : Except Fault Nat :=
  if (characters.take 4).foldl (fun size character => size + character.utf8Size) 0 < 4 then
    .error .ended
  else
    match characters with
    | a :: b :: c :: d :: _ =>
      match hexDigit? a, hexDigit? b, hexDigit? c, hexDigit? d with
      | some a, some b, some c, some d => .ok (((a * 16 + b) * 16 + c) * 16 + d)
      | _, _, _, _ => .error .malformed
    | _ => .error .malformed

/-- The character that a code escape writes, and how many characters the escape has after its
letter. Two escapes that halve a character write it together. -/
def codeEscape (characters : List Char) : Except Fault (Char × Nat) := do
  let code ← fourDigits characters
  if 0xDC00 ≤ code ∧ code < 0xE000 then throw .malformed
  else if 0xD800 ≤ code ∧ code < 0xDC00 then
    match characters.drop 4 with
    | [] => throw .ended
    | '\\' :: [] => throw .ended
    | '\\' :: 'u' :: further =>
      let second ← fourDigits further
      if 0xDC00 ≤ second ∧ second < 0xE000 then
        pure (Char.ofNat (0x10000 + (code - 0xD800) * 0x400 + (second - 0xDC00)), 10)
      else throw .malformed
    | _ => throw .malformed
  else pure (Char.ofNat code, 4)

/-- The character that a letter after a backslash writes, and how many further characters the escape
has. -/
def escape (letter : Char) (rest : List Char) : Except Fault (Char × Nat) :=
  match letter with
  | '"' => .ok ('"', 0)
  | '\\' => .ok ('\\', 0)
  | '/' => .ok ('/', 0)
  | 'b' => .ok ('\x08', 0)
  | 'f' => .ok ('\x0c', 0)
  | 'n' => .ok ('\n', 0)
  | 'r' => .ok ('\r', 0)
  | 't' => .ok ('\t', 0)
  | 'u' => codeEscape rest
  | _ => .error .malformed

/-- Reads a string after its opening quote, with `done` what it writes so far, last first, and
`count` the number of characters read. -/
def lexString (done : List Char) (count : Nat) (characters : List Char) :
    Except Fault (String × Nat) :=
  match characters with
  | [] => .error .ended
  | character :: rest =>
    if character = '"' then .ok (String.ofList done.reverse, count + 1)
    else if character = '\\' then
      match rest with
      | [] => .error .ended
      | letter :: further =>
        match escape letter further with
        | .error fault => .error fault
        | .ok (written, extra) =>
          lexString (written :: done) (count + 2 + extra) (further.drop extra)
    else if character.toNat < 0x20 then .error .malformed
    else lexString (character :: done) (count + 1) rest
termination_by characters.length
decreasing_by
  all_goals simp_all <;> omega

/-- Whether a character is a decimal digit. -/
def isDigit (character : Char) : Bool :=
  '0' ≤ character && character ≤ '9'

/-- The value of a decimal digit. -/
def digitValue (character : Char) : Nat :=
  character.toNat - 48

/-- One more than the greatest number of 64 bits. -/
def wordLimit : Nat := 0x10000000000000000

/-- Adds digits to a number as long as it stays below the limit; gives the number and how many
digits it took. -/
def addDigits (value taken : Nat) : List Char → Nat × Nat
  | [] => (value, taken)
  | character :: rest =>
    let next := value * 10 + digitValue character
    if next < wordLimit then addDigits next (taken + 1) rest else (value, taken)

/-- The parts of a written number. -/
structure Numeral where
  /-- Whether it begins with a minus sign. -/
  isNegative : Bool
  /-- The leading digits, as many as fit in 64 bits. -/
  significand : Nat
  /-- The exponent of ten that goes with them. -/
  exponent : Int
  /-- Whether the number is written as an integer that fits in 64 bits. -/
  isPlain : Bool

/-- The number of a numeral, if it is in range. -/
def Numeral.number? (numeral : Numeral) : Option Number :=
  let value : Int := if numeral.isNegative then -numeral.significand else numeral.significand
  if numeral.isPlain ∧ !(numeral.isNegative ∧ (numeral.significand = 0 ∨ 0x8000000000000000 < numeral.significand)) then
    if wide : isWide value = true then some (.integer value wide) else none
  else (Double.ofDecimal? numeral.isNegative numeral.significand numeral.exponent).map .double

/-- The greatest exponent that is told apart from greater ones. -/
def exponentLimit : Nat := 0x80000000

/-- Reads the exponent after its letter: its value and the number of characters. -/
def lexExponent (characters : List Char) : Except Fault (Int × Nat) :=
  let (isNegative, signs, unsigned) :=
    match characters with
    | '+' :: rest => (false, 1, rest)
    | '-' :: rest => (true, 1, rest)
    | _ => (false, 0, characters)
  match unsigned with
  | [] => .error .ended
  | first :: _ =>
    if !isDigit first then .error .malformed
    else
      let digits := unsigned.takeWhile isDigit
      let value := digits.foldl (fun value digit => value * 10 + digitValue digit) 0
      .ok (if isNegative then -value else value, signs + digits.length)

/-- The double of digits and an exponent; one too large to be read counts as too large or as zero,
by its sign. -/
def withExponent (isNegative : Bool) (significand : Nat) (before exponent : Int) :
    Except Fault Number :=
  if exponentLimit ≤ exponent.natAbs then
    if significand ≠ 0 ∧ 0 < exponent then .error .malformed
    else .ok (.double (Double.signed isNegative 0))
  else
    match Double.ofDecimal? isNegative significand (before + exponent) with
    | some value => .ok (.double value)
    | none => .error .malformed

/-- Reads what follows the digits of a number: an exponent, or nothing. -/
def lexScaled (isNegative : Bool) (significand : Nat) (exponent : Int) (count : Nat)
    (characters : List Char) : Except Fault (Number × Nat) :=
  match characters with
  | letter :: rest =>
    if letter = 'e' ∨ letter = 'E' then do
      let (further, length) ← lexExponent rest
      let number ← withExponent isNegative significand exponent further
      pure (number, count + 1 + length)
    else do
      let number ← withExponent isNegative significand exponent 0
      pure (number, count)
  | [] => do
    let number ← withExponent isNegative significand exponent 0
    pure (number, count)

/-- Reads a number without its sign, and how many characters it has. -/
def lexMagnitude (isNegative : Bool) (characters : List Char) : Except Fault (Number × Nat) :=
  match characters with
  | [] => .error .ended
  | first :: after =>
    if !isDigit first then .error .malformed
    else
      let whole := characters.takeWhile isDigit
      if first = '0' ∧ (after.head?.map isDigit).getD false then .error .malformed
      else
        let (significand, taken) := addDigits 0 0 whole
        let exponent : Int := (whole.length : Int) - taken
        match characters.drop whole.length with
        | '.' :: rest =>
          let fraction := rest.takeWhile isDigit
          if fraction = [] then .error (if rest = [] then .ended else .malformed)
          else
            let (significand, taken) := addDigits significand 0 fraction
            lexScaled isNegative significand (exponent - taken) (whole.length + 1 + fraction.length)
              (rest.drop fraction.length)
        | rest =>
          match rest.head? with
          | some 'e' | some 'E' => lexScaled isNegative significand exponent whole.length rest
          | _ =>
            let isPlain := taken = whole.length
            match Numeral.number? { isNegative, significand, exponent, isPlain } with
            | some number => .ok (number, whole.length)
            | none => .error .malformed

/-- Reads the further characters of a word. -/
def lexWord (word : List Char) (rest : List Char) : Except Fault Nat :=
  if word.isPrefixOf rest then .ok word.length
  else if rest.isPrefixOf word then .error .ended
  else .error .malformed

/-- Reads the token that begins with a character; gives it and how many further characters it
has. -/
def lexToken (character : Char) (rest : List Char) : Except Fault (Token × Nat) :=
  match character with
  | '[' => .ok (.openArray, 0)
  | ']' => .ok (.closeArray, 0)
  | '\x7b' => .ok (.openObject, 0)
  | '\x7d' => .ok (.closeObject, 0)
  | ',' => .ok (.comma, 0)
  | ':' => .ok (.colon, 0)
  | 'n' => (lexWord ['u', 'l', 'l'] rest).map fun count => (.null, count)
  | 't' => (lexWord ['r', 'u', 'e'] rest).map fun count => (.boolean true, count)
  | 'f' => (lexWord ['a', 'l', 's', 'e'] rest).map fun count => (.boolean false, count)
  | '"' => (lexString [] 0 rest).map fun (text, count) => (.string text, count)
  | '-' => (lexMagnitude true rest).map fun (number, count) => (.number number, count)
  | _ =>
    (lexMagnitude false (character :: rest)).map fun (number, count) => (.number number, count - 1)

/-- What ends the tokens of a text. -/
inductive LexEnd where
  /-- The text is over. -/
  | finished
  /-- The token that begins with a character has a fault. -/
  | broken (character : Char) (fault : Fault)
  deriving DecidableEq, Repr

/-- Cuts a text into tokens, with `done` those before, last first. -/
def lexFrom (done : List Token) (characters : List Char) : List Token × LexEnd :=
  match characters with
  | [] => (done.reverse, .finished)
  | character :: rest =>
    if isSpace character then lexFrom done rest
    else
      match lexToken character rest with
      | .error fault => (done.reverse, .broken character fault)
      | .ok (token, count) => lexFrom (token :: done) (rest.drop count)
termination_by characters.length
decreasing_by
  all_goals
    simp only [List.length_cons, List.length_drop]
    omega

/-- The tokens of a text, and what ends them. -/
def lex (text : String) : List Token × LexEnd :=
  lexFrom [] text.toList

end DecompileServer.Json

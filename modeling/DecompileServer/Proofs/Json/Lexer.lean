import DecompileServer.Json.Draft

/-!
# The lexer, one step at a time

What each reader of the lexer does with the first of its characters. Long readers are parts with
names: an escape by codes is a code and perhaps a second half (`codeEscape_eq`), an exponent a sign
and digits (`lexExponent_eq`), and a number digits and what follows them (`lexMagnitude_cons`).
-/
namespace DecompileServer.Json

variable {space : Char} {characters : List Char}

/-- White space is one of four characters. -/
theorem isSpace_iff : isSpace space = true ↔ space ∈ [' ', '\t', '\n', '\r'] := by
  simp [isSpace, or_assoc]

/-- A digit is a decimal one. -/
theorem isDigit_eq (character : Char) : isDigit character = character.isDigit := by
  simp [isDigit, Char.isDigit, Char.le_def]

/-- White space is no digit. -/
theorem isDigit_of_isSpace (blank : isSpace space = true) : isDigit space = false := by
  have each : ∀ mark ∈ [' ', '\t', '\n', '\r'], isDigit mark = false := by
    simp only [List.forall_mem_cons, List.not_mem_nil, false_implies, implies_true, and_true]
    decide
  exact each space (isSpace_iff.mp blank)

/-- Reads the second half of a character after its first half, which has the given code. -/
def lowHalf (code : Nat) (characters : List Char) : Except Fault (Char × Nat) :=
  match characters with
  | [] => .error .ended
  | '\\' :: [] => .error .ended
  | '\\' :: 'u' :: further => do
    let second ← fourDigits further
    if 0xDC00 ≤ second ∧ second < 0xE000 then
      pure (Char.ofNat (0x10000 + (code - 0xD800) * 0x400 + (second - 0xDC00)), 10)
    else throw .malformed
  | _ => .error .malformed

/-- A code escape is a code and perhaps a second half. -/
theorem codeEscape_eq (characters : List Char) : codeEscape characters = (do
    let code ← fourDigits characters
    if 0xDC00 ≤ code ∧ code < 0xE000 then throw .malformed
    else if 0xD800 ≤ code ∧ code < 0xDC00 then lowHalf code (characters.drop 4)
    else pure (Char.ofNat code, 4)) :=
  rfl

section Strings

variable {done rest : List Char} {count : Nat} {letter : Char}

/-- A string without a quote after it is not over. -/
theorem lexString_nil : lexString done count [] = .error .ended := by
  rw [lexString]

/-- A quote ends a string. -/
theorem lexString_quote : lexString done count ('"' :: rest) =
    .ok (String.ofList done.reverse, count + 1) := by
  rw [lexString.eq_def]
  rfl

/-- An escape has a letter. -/
theorem lexString_lone : lexString done count ['\\'] = .error .ended := by
  rw [lexString.eq_def]
  rfl

/-- An escape that writes nothing ends the string. -/
theorem lexString_escape_error {fault : Fault} (read : escape letter rest = .error fault) :
    lexString done count ('\\' :: letter :: rest) = .error fault := by
  rw [lexString.eq_def]
  simp [read]

/-- A string goes on after an escape. -/
theorem lexString_escape_ok {written : Char} {extra : Nat}
    (read : escape letter rest = .ok (written, extra)) :
    lexString done count ('\\' :: letter :: rest) =
      lexString (written :: done) (count + 2 + extra) (rest.drop extra) := by
  rw [lexString.eq_def]
  simp [read]

/-- A string has no control characters. -/
theorem lexString_control (quote : letter ≠ '"') (slash : letter ≠ '\\')
    (control : letter.toNat < 0x20) :
    lexString done count (letter :: rest) = .error .malformed := by
  rw [lexString.eq_def]
  simp [quote, slash, control]

/-- A string goes on after any other character. -/
theorem lexString_plain (quote : letter ≠ '"') (slash : letter ≠ '\\')
    (plain : ¬letter.toNat < 0x20) :
    lexString done count (letter :: rest) = lexString (letter :: done) (count + 1) rest := by
  rw [lexString.eq_def]
  simp [quote, slash, plain]

end Strings

/-- The sign of an exponent, the number of characters it has, and what follows it. -/
def signOf (characters : List Char) : Bool × Nat × List Char :=
  match characters with
  | '+' :: rest => (false, 1, rest)
  | '-' :: rest => (true, 1, rest)
  | _ => (false, 0, characters)

/-- Reads the digits of an exponent after its sign. -/
def lexDigits (isNegative : Bool) (signs : Nat) (unsigned : List Char) : Except Fault (Int × Nat) :=
  match unsigned with
  | [] => .error .ended
  | first :: _ =>
    if !isDigit first then .error .malformed
    else
      let digits := unsigned.takeWhile isDigit
      let value := digits.foldl (fun value digit => value * 10 + digitValue digit) 0
      .ok (if isNegative then -value else value, signs + digits.length)

/-- An exponent is a sign and digits. -/
theorem lexExponent_eq : lexExponent characters =
    lexDigits (signOf characters).1 (signOf characters).2.1 (signOf characters).2.2 :=
  rfl

/-- The number of `count` digits without a point and an exponent. -/
def digitsOnly (isNegative : Bool) (significand taken : Nat) (exponent : Int) (count : Nat) :
    Except Fault (Number × Nat) :=
  let isPlain := taken = count
  match Numeral.number? { isNegative, significand, exponent, isPlain } with
  | some number => .ok (number, count)
  | none => .error .malformed

/-- Reads what follows the `count` digits of a number without a point. -/
def lexUnpointed (isNegative : Bool) (significand taken : Nat) (exponent : Int) (count : Nat)
    (characters : List Char) : Except Fault (Number × Nat) :=
  match characters.head? with
  | some 'e' | some 'E' => lexScaled isNegative significand exponent count characters
  | _ => digitsOnly isNegative significand taken exponent count

/-- Reads the digits of a number after its point, with `count` the number of characters before. -/
def lexFraction (isNegative : Bool) (significand : Nat) (exponent : Int) (count : Nat)
    (characters : List Char) : Except Fault (Number × Nat) :=
  let fraction := characters.takeWhile isDigit
  if fraction = [] then .error (if characters = [] then .ended else .malformed)
  else
    let (significand, taken) := addDigits significand 0 fraction
    lexScaled isNegative significand (exponent - taken) (count + fraction.length)
      (characters.drop fraction.length)

/-- Reads what follows the digits at the front of a number. -/
def lexRest (isNegative : Bool) (whole : List Char) (characters : List Char) :
    Except Fault (Number × Nat) :=
  let (significand, taken) := addDigits 0 0 whole
  let exponent : Int := (whole.length : Int) - taken
  match characters with
  | '.' :: rest => lexFraction isNegative significand exponent (whole.length + 1) rest
  | rest => lexUnpointed isNegative significand taken exponent whole.length rest

/-- A number is digits and what follows them. -/
theorem lexMagnitude_cons (isNegative : Bool) (first : Char) (after : List Char) :
    lexMagnitude isNegative (first :: after) =
      if !isDigit first then .error .malformed
      else if first = '0' ∧ (after.head?.map isDigit).getD false then .error .malformed
      else
        let whole := (first :: after).takeWhile isDigit
        lexRest isNegative whole ((first :: after).drop whole.length) :=
  rfl

section Tokens

variable {done : List Token} {first : Char} {rest : List Char}

/-- White space between tokens is passed over. -/
theorem lexFrom_of_isSpace (blank : isSpace first = true) :
    lexFrom done (first :: rest) = lexFrom done rest := by
  rw [lexFrom, if_pos blank]

/-- A fault ends the tokens. -/
theorem lexFrom_of_error {fault : Fault} (visible : ¬isSpace first = true)
    (read : lexToken first rest = .error fault) :
    lexFrom done (first :: rest) = (done.reverse, .broken first fault) := by
  rw [lexFrom, if_neg visible]
  simp only [read]

/-- The tokens go on after one of them. -/
theorem lexFrom_of_ok {token : Token} {count : Nat} (visible : ¬isSpace first = true)
    (read : lexToken first rest = .ok (token, count)) :
    lexFrom done (first :: rest) = lexFrom (token :: done) (rest.drop count) := by
  rw [lexFrom, if_neg visible]
  simp only [read]

end Tokens

end DecompileServer.Json

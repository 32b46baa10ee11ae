import DecompileServer.Json.Double
import DecompileServer.Program.Arithmetic

/-!
# Printing by a format

A format holds characters, escapes and directives. It is used again as long as arguments are left,
and a directive without an argument prints nothing or zero. `echo` knows the escapes too.
-/
namespace DecompileServer.Program

/-- What printing leaves: the octets, the complaints and whether printing is cut off. -/
structure Print where
  /-- The octets, in order. -/
  output : List Char := []
  /-- What is said about arguments, in order. -/
  complaints : List String := []
  /-- Whether nothing more is printed. -/
  isCut : Bool := false

namespace Print

/-- One print after the other. -/
def append (first second : Print) : Print :=
  if first.isCut then first
  else ⟨first.output ++ second.output, first.complaints ++ second.complaints, second.isCut⟩

/-- The value of octal digits, of which there are at most `most`, and what follows them. -/
def octal (most : Nat) (text : List Char) : Nat × List Char :=
  let digits := (text.take most).takeWhile fun character => '0' ≤ character && character ≤ '7'
  (digits.foldl (fun value digit => value * 8 + (digit.toNat - 48)) 0, text.drop digits.length)

/-- The character for a letter after a backslash. -/
def escapes : List (Char × Char) :=
  [('\\', '\\'), ('a', '\x07'), ('b', '\x08'), ('f', '\x0c'), ('n', '\n'), ('r', '\r'), ('t', '\t'),
    ('v', '\x0b'), ('e', '\x1b')]

/-- The character for what follows a backslash, with what follows that. -/
def escaped (text : List Char) : Char × List Char :=
  match text with
  | [] => ('\\', [])
  | first :: rest =>
    if '0' ≤ first ∧ first ≤ '7' then
      let (value, after) := octal 3 text
      (Char.ofNat (value % 256), after)
    else
      match escapes.lookup first with
      | some character => (character, rest)
      | none => ('\\', text)

/-- The characters of a text whose escapes are undone. The flag tells whether it says that nothing
more is to be printed. -/
def unescaped : Nat → List Char → List Char × Bool
  | 0, _ => ([], false)
  | _ + 1, [] => ([], false)
  | _ + 1, '\\' :: 'c' :: _ => ([], true)
  | limit + 1, '\\' :: '0' :: rest =>
    let (value, after) := octal 3 rest
    let (further, isCut) := unescaped limit after
    (Char.ofNat (value % 256) :: further, isCut)
  | limit + 1, '\\' :: rest =>
    let (character, after) := escaped rest
    let (further, isCut) := unescaped limit after
    (character :: further, isCut)
  | limit + 1, character :: rest =>
    let (further, isCut) := unescaped limit rest
    (character :: further, isCut)

/-- What `echo` prints. -/
def echo (arguments : List String) : String :=
  let (isOpen, words) := match arguments with
    | "-n" :: rest => (true, rest)
    | words => (false, words)
  let text := (" ".intercalate words).toList
  let (output, isCut) := unescaped (text.length + 1) text
  String.ofList (output ++ if isOpen || isCut then [] else ['\n'])

/-- How a directive prints. -/
structure Directive where
  /-- Whether the text is put to the left. -/
  isLeft : Bool := false
  /-- Whether zeros fill up the width. -/
  isZeroed : Bool := false
  /-- What stands before a number that is not negative. -/
  plus : String := ""
  /-- Whether the base of a number is shown. -/
  isAlternate : Bool := false
  /-- The least width. -/
  width : Nat := 0
  /-- The precision. -/
  precision : Option Nat := none

/-- Fills a text up to the width. -/
def Directive.fill (directive : Directive) (text : List Char) : List Char :=
  let blanks := List.replicate (directive.width - text.length) ' '
  if directive.isLeft then text ++ blanks else blanks ++ text

/-- Fills up what stands after a sign, with zeros if the directive says so. -/
def Directive.fillNumber (directive : Directive) (sign digits : List Char) (allowsZeros : Bool) :
    List Char :=
  if directive.isZeroed && !directive.isLeft && allowsZeros then
    sign ++ List.replicate (directive.width - sign.length - digits.length) '0' ++ digits
  else directive.fill (sign ++ digits)

/-- The digits of a number in a base, small letters being used. -/
def digitsOf (base value : Nat) : List Char := Nat.toDigits base value

/-- An integer by a directive. -/
def Directive.integer (directive : Directive) (letter : Char) (value : Int) : List Char :=
  let isSigned := letter = 'd' ∨ letter = 'i'
  let magnitude := if isSigned then value.natAbs else (value % 0x10000000000000000).toNat
  let base := if letter = 'o' then 8 else if letter = 'x' ∨ letter = 'X' then 16 else 10
  let digits := if magnitude = 0 ∧ directive.precision = some 0 then [] else digitsOf base magnitude
  let digits := List.replicate (directive.precision.getD 1 - digits.length) '0' ++ digits
  let digits :=
    if directive.isAlternate ∧ letter = 'o' ∧ digits.head? ≠ some '0' then '0' :: digits else digits
  let sign :=
    if isSigned then (if value < 0 then ['-'] else directive.plus.toList)
    else if directive.isAlternate ∧ base = 16 ∧ magnitude ≠ 0 then ['0', 'x'] else []
  let upper (text : List Char) : List Char := if letter = 'X' then text.map Char.toUpper else text
  directive.fillNumber (upper sign) (upper digits) directive.precision.isNone

/-- A quotient rounded to the nearest integer, of two the even one. -/
def roundedQuotient (numerator denominator : Nat) : Nat :=
  let quotient := numerator / denominator
  let twice := 2 * (numerator % denominator)
  if denominator < twice ∨ (twice = denominator ∧ quotient % 2 = 1) then quotient + 1 else quotient

/-- The digits of a fraction with so many places after the point. -/
def fixedDigits (ratio : Json.Double.Ratio) (places : Nat) : List Char :=
  let scaled := roundedQuotient (ratio.numerator * Nat.pow 10 places) ratio.denominator
  let digits := digitsOf 10 scaled
  let digits := List.replicate (places + 1 - digits.length) '0' ++ digits
  let whole := digits.take (digits.length - places)
  if places = 0 then whole else whole ++ '.' :: digits.drop (digits.length - places)

/-- The digits of a fraction with an exponent of ten, and the exponent. -/
def scientific (ratio : Json.Double.Ratio) (places : Nat) : List Char × Int :=
  if ratio.numerator = 0 then
    ('0' :: if places = 0 then [] else '.' :: List.replicate places '0', 0)
  else
    let exponent := Json.Double.leadingExponent ratio
    let scaled := ratio.scale 10 ((places : Int) - exponent)
    let rounded := roundedQuotient scaled.numerator scaled.denominator
    let digits := digitsOf 10 rounded
    let (digits, exponent) :=
      if places + 1 < digits.length then (digits.dropLast, exponent + 1) else (digits, exponent)
    (digits.take 1 ++ (if places = 0 then [] else '.' :: digits.drop 1), exponent)

/-- The exponent of ten after a number. -/
def exponentText (exponent : Int) : List Char :=
  let digits := digitsOf 10 exponent.natAbs
  'e' :: (if exponent < 0 then '-' else '+') :: (if digits.length < 2 then '0' :: digits else digits)

/-- Digits without the zeros at the end of their places. -/
def withoutTrail (digits : List Char) : List Char :=
  if digits.contains '.' then
    let kept := (digits.reverse.dropWhile (· == '0'))
    (if kept.head? = some '.' then kept.drop 1 else kept).reverse
  else digits

/-- A number with a point by a directive. -/
def Directive.real (directive : Directive) (letter : Char) (value : Json.Double) : List Char :=
  let (significand, exponent) := value.significandAndExponent
  let ratio := (Json.Double.Ratio.mk significand 1).scale 2 exponent
  let places := directive.precision.getD 6
  let lower := letter.toLower
  let digits :=
    if lower = 'f' then fixedDigits ratio places
    else if lower = 'e' then
      let (digits, power) := scientific ratio places
      digits ++ exponentText power
    else
      let places := max places 1
      let (digits, power) := scientific ratio (places - 1)
      let shown (digits : List Char) : List Char :=
        if directive.isAlternate then digits else withoutTrail digits
      if power < -4 ∨ (places : Int) ≤ power then shown digits ++ exponentText power
      else shown (fixedDigits ratio ((places : Int) - 1 - power).toNat)
  let sign := if value.isNegative then ['-'] else directive.plus.toList
  let digits := if letter.isUpper then digits.map Char.toUpper else digits
  directive.fillNumber sign digits true

/-- An argument as a number of 64 bits, with what is said about it. -/
def numberOf (isSigned : Bool) (argument : String) : Int × List String :=
  match argument.toList with
  | [] => (0, [])
  | '"' :: rest | '\x27' :: rest => (((rest.head?.map Char.toNat).getD 0 : Nat), [])
  | characters =>
    let text := characters.dropWhile Arithmetic.isSpace
    let (isNegative, digits) := match text with
      | '-' :: digits => (true, digits)
      | '+' :: digits => (false, digits)
      | digits => (false, digits)
    let (value, after) := Arithmetic.numberAt digits
    let signed : Int := if isNegative then -value else value
    let nearest : Int :=
      if isSigned then Arithmetic.clamped signed
      else if 0xFFFFFFFFFFFFFFFF < value then 0xFFFFFFFFFFFFFFFF else signed
    let complaint :=
      if after.length = digits.length then [argument ++ ": expected numeric value"]
      else if after ≠ [] then [argument ++ ": not completely converted"]
      else if nearest ≠ signed then [argument ++ ": Numerical result out of range"] else []
    (if after.length = digits.length then 0 else nearest, complaint)

/-- An argument as a number with a point. -/
def realOf (argument : String) : Json.Double × List String :=
  let text := argument.toList.dropWhile Arithmetic.isSpace
  let (isNegative, digits) := match text with
    | '-' :: digits => (true, digits)
    | '+' :: digits => (false, digits)
    | digits => (false, digits)
  let whole := digits.takeWhile Char.isDigit
  let rest := digits.drop whole.length
  let (places, rest) := match rest with
    | '.' :: rest => (rest.takeWhile Char.isDigit, rest.dropWhile Char.isDigit)
    | rest => ([], rest)
  let (power, rest) : Int × List Char := match rest with
    | 'e' :: '-' :: power | 'E' :: '-' :: power =>
      (-((Arithmetic.digitsIn 10 power).1 : Int), (Arithmetic.digitsIn 10 power).2)
    | 'e' :: '+' :: power | 'E' :: '+' :: power | 'e' :: power | 'E' :: power =>
      (((Arithmetic.digitsIn 10 power).1 : Int), (Arithmetic.digitsIn 10 power).2)
    | rest => (0, rest)
  let (significand, _) := Arithmetic.digitsIn 10 (whole ++ places)
  let exponent := power - places.length
  let magnitude := Float.ofScientific significand (exponent < 0) exponent.natAbs
  let complaint :=
    if argument = "" then []
    else if whole = [] ∧ places = [] then [argument ++ ": expected numeric value"]
    else if rest ≠ [] then [argument ++ ": not completely converted"] else []
  (Json.Double.ofFloat (if isNegative then -magnitude else magnitude), complaint)

/-- Takes the flags of a directive. -/
def flags (directive : Directive) : List Char → Directive × List Char
  | '-' :: rest => flags { directive with isLeft := true } rest
  | '0' :: rest => flags { directive with isZeroed := true } rest
  | '+' :: rest => flags { directive with plus := "+" } rest
  | ' ' :: rest => flags { directive with plus := if directive.plus = "" then " " else directive.plus } rest
  | '#' :: rest => flags { directive with isAlternate := true } rest
  | rest => (directive, rest)

/-- Takes a number of a directive, or the next argument in its place. -/
def size (text : List Char) (arguments : List String) : Option Int × List Char × List String :=
  match text with
  | '*' :: rest => (some (numberOf true (arguments.headD "")).1, rest, arguments.drop 1)
  | text =>
    let digits := text.takeWhile Char.isDigit
    if digits = [] then (none, text, arguments)
    else (some (Arithmetic.digitsIn 10 digits).1, text.drop digits.length, arguments)

/-- Takes a directive up to its letter. -/
def directive (text : List Char) (arguments : List String) :
    Directive × List Char × List String :=
  let (directive, text) := flags {} text
  let (width, text, arguments) := size text arguments
  let directive := match width with
    | some width =>
      { directive with width := width.natAbs, isLeft := directive.isLeft || width < 0 }
    | none => directive
  match text with
  | '.' :: text =>
    let (precision, text, arguments) := size text arguments
    ({ directive with
        precision := match precision with
          | some value => if value < 0 then none else some value.toNat
          | none => some 0 }, text, arguments)
  | text => (directive, text, arguments)

/-- Prints an argument by the letter of a directive; `none` if there is no such letter. -/
def byLetter? (directive : Directive) (letter : Char) (argument : String) : Option Print :=
  if ['d', 'i', 'o', 'u', 'x', 'X'].contains letter then
    let (value, complaints) := numberOf (letter == 'd' || letter == 'i') argument
    some { output := directive.integer letter value, complaints }
  else if ['e', 'E', 'f', 'F', 'g', 'G'].contains letter then
    let (value, complaints) := realOf argument
    some { output := directive.real letter value, complaints }
  else
    let cut (text : List Char) : List Char :=
      match directive.precision with
      | some most => text.take most
      | none => text
    match letter with
    | 's' => some { output := directive.fill (cut argument.toList) }
    | 'c' => some { output := directive.fill (argument.toList.take 1) }
    | 'b' =>
      let (text, isCut) := unescaped (argument.length + 1) argument.toList
      some { output := directive.fill (cut text), isCut }
    | _ => none

/-- Prints a format once. Gives the arguments that are left, or the directive that is none. -/
def once : Nat → List Char → List String → Print → Except (Print × String) (Print × List String)
  | 0, _, arguments, print => .ok (print, arguments)
  | _ + 1, [], arguments, print => .ok (print, arguments)
  | limit + 1, '\\' :: rest, arguments, print =>
    let (character, after) := escaped rest
    once limit after arguments (print.append { output := [character] })
  | limit + 1, '%' :: '%' :: rest, arguments, print =>
    once limit rest arguments (print.append { output := ['%'] })
  | limit + 1, '%' :: rest, arguments, print =>
    let (found, text, arguments) := directive rest arguments
    match text with
    | [] => .error (print, "missing format character")
    | letter :: after =>
      match byLetter? found letter (arguments.headD "") with
      | some one =>
        if one.isCut then .ok (print.append one, [])
        else once limit after (arguments.drop 1) (print.append one)
      | none =>
        let spelled := ('%' :: rest).take (rest.length - after.length + 1)
        .error (print, String.ofList spelled ++ ": invalid directive")
  | limit + 1, character :: rest, arguments, print =>
    once limit rest arguments (print.append { output := [character] })

/-- Prints a format as often as arguments are left for it. Gives the complaint that ends it, if one
does. -/
def formatted (format : List Char) : Nat → List String → Print → Print × Option String
  | 0, _, print => (print, none)
  | limit + 1, arguments, print =>
    match once (format.length + 1) format arguments print with
    | .error (print, complaint) => (print, some complaint)
    | .ok (print, left) =>
      if left = [] || left.length = arguments.length || print.isCut then (print, none)
      else formatted format limit left print

end Print

end DecompileServer.Program

import DecompileServer.Program.Call
import DecompileServer.Program.Condition
import DecompileServer.Program.Expression
import DecompileServer.Program.Printed

/-!
# Programs that make texts of their arguments

They take names apart, compute, count and repeat what they are given, and read nothing.
-/
namespace DecompileServer.Program.Utility

/-! ### Names -/

/-- A text without the slashes at its end. -/
def withoutSlashes (text : List Char) : List Char :=
  (text.reverse.dropWhile (· == '/')).reverse

/-- The last name of a path. -/
def lastName (path : String) : String :=
  let text := path.toList
  let bare := withoutSlashes text
  if text ≠ [] ∧ bare = [] then "/"
  else String.ofList ((bare.reverse.takeWhile (· ≠ '/')).reverse)

/-- A name without an ending, unless nothing would be left. -/
def withoutEnding (name ending : String) : String :=
  if name ≠ ending ∧ ending.toList.isSuffixOf name.toList then
    String.ofList (name.toList.take (name.length - ending.length))
  else name

/-- Shows the last names of paths. -/
def basename (call : Call) : Written :=
  call.withOptions
    { flags := "az", valued := "s", anywhere := false,
      long := [("multiple", 'a'), ("suffix", 's'), ("zero", 'z')] } 1
    fun options =>
      let mark := if options.has 'z' then "\x00" else "\n"
      let several := options.has 'a' || options.has 's'
      match options.operands with
      | [] => call.misused "missing operand" 1
      | path :: rest =>
        if several then
          call.nothing.say (String.join (options.operands.map fun path =>
            withoutEnding (lastName path) ((options.value? 's').getD "") ++ mark))
        else
          match rest with
          | [] => call.nothing.say (lastName path ++ mark)
          | [ending] => call.nothing.say (withoutEnding (lastName path) ending ++ mark)
          | _ :: extra :: _ => call.misused ("extra operand " ++ quotedName extra) 1

/-- The path of the directory that a path lies in. -/
def directoryName (path : String) : String :=
  let text := path.toList
  let bare := withoutSlashes text
  let above := withoutSlashes (bare.reverse.dropWhile (· ≠ '/')).reverse
  if text.head? = some '/' ∧ above = [] then "/"
  else if above = [] then "."
  else String.ofList above

/-- Shows the directories that paths lie in. -/
def dirname (call : Call) : Written :=
  call.withOptions { flags := "z", long := [("zero", 'z')] } 1 fun options =>
    if options.operands.isEmpty then call.misused "missing operand" 1
    else
      let mark := if options.has 'z' then "\x00" else "\n"
      call.nothing.say (String.join (options.operands.map fun path => directoryName path ++ mark))

/-! ### Expressions -/

/-- An evaluation of words, with those that are left after the one that was taken last. -/
abbrev WordsEvaluation := StateT (List String × String) (Except String)

/-- The integer that a text is. -/
def integer? (text : String) : Option Int :=
  let (isNegative, digits) := match text.toList with
    | '-' :: digits => (true, digits)
    | digits => (false, digits)
  if digits ≠ [] ∧ digits.all Char.isDigit then
    let value := (Arithmetic.digitsIn 10 digits).1
    some (if isNegative then -(value : Int) else value)
  else none

/-- Whether a text counts as nothing. -/
def isNull (text : String) : Bool := text = "" || integer? text = some 0

/-- Takes the next word if it is one of the given ones. -/
def takeOperator (operators : List String) : WordsEvaluation (Option String) := do
  match (← get).1 with
  | word :: rest =>
    if operators.contains word then
      set (rest, word)
      pure (some word)
    else pure none
  | [] => pure none

/-- Takes the next word, which there has to be. -/
def takeWord : WordsEvaluation String := do
  match ← get with
  | (word :: rest, _) =>
    set (rest, word)
    pure word
  | ([], before) => throw ("syntax error: missing argument after " ++ quotedName before)

/-- The part of a text that a basic expression holds for: its first group if it has one, or the number
of characters. -/
def matched (text pattern : String) : String :=
  let found := (Expression.read false pattern).search false text.toList.toArray 0
  let hasGroup := (pattern.splitOn "\\(").length ≠ 1
  match found.filter (·.start == 0) with
  | some found =>
    if hasGroup then
      match found.groups.lookup 1 with
      | some (start, stop) => String.ofList ((text.toList.take stop).drop start)
      | none => ""
    else toString found.stop
  | none => if hasGroup then "" else "0"

/-- The value of an operator with two integers. -/
def computed (operator left right : String) : Except String String :=
  match integer? left, integer? right with
  | some left, some right =>
    match operator with
    | "+" => .ok (toString (left + right))
    | "-" => .ok (toString (left - right))
    | "*" => .ok (toString (left * right))
    | operator =>
      if right = 0 then .error "division by zero"
      else .ok (toString (if operator = "/" then Int.tdiv left right else Int.tmod left right))
  | _, _ => .error "non-integer argument"

/-- The value of a comparison. -/
def compared (operator left right : String) : String :=
  let order := match integer? left, integer? right with
    | some left, some right => compare left right
    | _, _ => compare left right
  let holds : Bool := match operator with
    | "<" => order == .lt
    | "<=" => order != .gt
    | ">" => order == .gt
    | ">=" => order != .lt
    | "!=" => order != .eq
    | _ => order == .eq
  if holds then "1" else "0"

/-- The operators by how loosely they bind, the loosest first. -/
def expressionLevels : List (List String) :=
  [["|"], ["&"], ["<", "<=", "=", "==", "!=", ">=", ">"], ["+", "-"], ["*", "/", "%"], [":"]]

/-- The value of an operator. -/
def applied (operator left right : String) : Except String String :=
  match operator with
  | "|" => .ok (if !isNull left then left else if isNull right then "0" else right)
  | "&" => .ok (if isNull left || isNull right then "0" else left)
  | ":" => .ok (matched left right)
  | "+" | "-" | "*" | "/" | "%" => computed operator left right
  | operator => .ok (compared operator left right)

mutual

/-- An operand: a word, a function or an expression in parentheses. -/
def expressionOperand : Nat → WordsEvaluation String
  | 0 => throw "syntax error"
  | limit + 1 => do
    match ← takeWord with
    | "+" => takeWord
    | "length" => do pure (toString (← expressionOperand limit).length)
    | "match" => do
      let text ← expressionOperand limit
      pure (matched text (← expressionOperand limit))
    | "index" => do
      let text ← expressionOperand limit
      let set ← expressionOperand limit
      let place := (text.toList.findIdx? fun character => set.toList.contains character).map (· + 1)
      pure (toString (place.getD 0))
    | "substr" => do
      let text ← expressionOperand limit
      let start := (integer? (← expressionOperand limit)).getD 0
      let size := (integer? (← expressionOperand limit)).getD 0
      if start ≤ 0 ∨ size ≤ 0 then pure ""
      else pure (String.ofList ((text.toList.drop (start.toNat - 1)).take size.toNat))
    | "(" => do
      let value ← expressionAt limit 0
      match ← get with
      | (")" :: rest, _) =>
        set (rest, ")")
        pure value
      | ([], before) => throw ("syntax error: expecting ')' after " ++ quotedName before)
      | (word :: _, _) => throw ("syntax error: expecting ')' instead of " ++ quotedName word)
    | ")" => throw "syntax error: unexpected ')'"
    | word => pure word

/-- An expression of operators from a level on. -/
def expressionAt : Nat → Nat → WordsEvaluation String
  | 0, _ => throw "syntax error"
  | limit + 1, level =>
    match expressionLevels[level]? with
    | none => expressionOperand limit
    | some operators => do
      expressionAfter limit level operators (← expressionAt limit (level + 1))

/-- An expression of operators of a level, after what stands before them. -/
def expressionAfter : Nat → Nat → List String → String → WordsEvaluation String
  | 0, _, _, _ => throw "syntax error"
  | limit + 1, level, operators, left => do
    match ← takeOperator operators with
    | some operator =>
      let right ← expressionAt limit (level + 1)
      expressionAfter limit level operators (← applied operator left right)
    | none => pure left

end

/-- Computes an expression. -/
def expr (call : Call) : Written :=
  let words := match call.arguments with
    | "--" :: words => words
    | words => words
  if words.isEmpty then call.misused "missing operand" 2
  else
    match (expressionAt (20 * words.length + 20) 0).run (words, "") with
    | .error text => call.nothing.complain call text 2
    | .ok (_, (word :: _, _)) =>
      call.nothing.complain call ("syntax error: unexpected argument " ++ quotedName word) 2
    | .ok (value, _) =>
      { call.nothing.say (value ++ "\n") with status := if isNull value then 1 else 0 }

/-! ### Numbers -/

/-- A decimal: its integer with so many places after the point. -/
structure Decimal where
  /-- The number without its point. -/
  value : Int
  /-- The number of places after the point. -/
  places : Nat
  /-- The number of characters that write it. -/
  width : Nat

/-- The decimal that a text is. -/
def decimal? (text : String) : Option Decimal :=
  let (isNegative, digits) := match text.toList with
    | '-' :: digits => (true, digits)
    | '+' :: digits => (false, digits)
    | digits => (false, digits)
  let whole := digits.takeWhile Char.isDigit
  let fraction? := match digits.drop whole.length with
    | [] => some []
    | '.' :: places => if places.all Char.isDigit then some places else none
    | _ => none
  match fraction? with
  | some fraction =>
    if whole = [] ∧ fraction = [] then none
    else
      let value := (Arithmetic.digitsIn 10 (whole ++ fraction)).1
      some ⟨if isNegative then -(value : Int) else value, fraction.length, text.length⟩
  | none => none

/-- The text of a number with places after the point. -/
def decimalText (value : Int) (places width : Nat) : String :=
  let digits := Nat.toDigits 10 value.natAbs
  let digits := List.replicate (places + 1 - digits.length) '0' ++ digits
  let digits :=
    if places = 0 then digits
    else digits.take (digits.length - places) ++ '.' :: digits.drop (digits.length - places)
  let sign := if value < 0 then ['-'] else []
  String.ofList (sign ++ List.replicate (width - sign.length - digits.length) '0' ++ digits)

/-- The numbers from one to another. -/
def numbersFrom (last step : Int) : Nat → Int → List Int
  | 0, _ => []
  | limit + 1, value =>
    if (0 < step ∧ last < value) ∨ (step < 0 ∧ value < last) then []
    else value :: numbersFrom last step limit (value + step)

/-- Counts. -/
def seq (call : Call) : Written :=
  -- A dash before a digit begins a number.
  let isNumber (text : String) : Bool := match text.toList with
    | '-' :: next :: _ => next.isDigit || next == '.'
    | _ => true
  let optionCount := (call.arguments.takeWhile fun text => !isNumber text).length
  let optionCount := match call.arguments[optionCount - 1]? with
    | some "-s" | some "-f" => if 0 < optionCount then optionCount + 1 else optionCount
    | _ => optionCount
  let spelling : Options.Spelling :=
    { flags := "w", valued := "sf", long := [("separator", 's'), ("equal-width", 'w'), ("format", 'f')] }
  match Options.read spelling (call.arguments.take optionCount) with
  | .error text => call.misused text 1
  | .ok options =>
    let operands := options.operands ++ call.arguments.drop optionCount
    if 3 < operands.length then
      call.misused ("extra operand " ++ quotedName (operands.getD 3 "")) 1
    else
    match operands.find? fun text => (decimal? text).isNone with
    | some text => call.misused ("invalid floating point argument: " ++ quotedName text) 1
    | none =>
      let one : Decimal := ⟨1, 0, 1⟩
      match operands.filterMap decimal? with
      | [] => call.misused "missing operand" 1
      | [last] => shown options one one last
      | [first, last] => shown options first one last
      | [first, step, last] =>
        if step.value = 0 then
          call.misused ("invalid Zero increment value: " ++ quotedName (operands.getD 1 "")) 1
        else shown options first step last
      | _ => call.misused ("extra operand " ++ quotedName (operands.getD 3 "")) 1
where
  /-- Shows the numbers. -/
  shown (options : Options) (first step last : Decimal) : Written :=
    let places := max first.places step.places
    let scale := max places last.places
    let scaled (number : Decimal) : Int := number.value * (Nat.pow 10 (scale - number.places) : Nat)
    let numbers := numbersFrom (scaled last) (scaled step) 100000 (scaled first)
    let wide := numbers.foldl (fun wide value =>
      max wide (decimalText (value / (Nat.pow 10 (scale - places) : Nat)) places 0).length) 0
    let texts := numbers.map fun (number : Int) =>
      let value := number / ((Nat.pow 10 (scale - places) : Nat) : Int)
      match options.value? 'f' with
      | some format =>
        String.ofList (Print.formatted format.toList 2 [decimalText value places 0] {}).1.output
      | none => decimalText value places (if options.has 'w' then wide else 0)
    let separator := (options.value? 's').getD "\n"
    if texts.isEmpty then call.nothing else call.nothing.say (separator.intercalate texts ++ "\n")

/-! ### Texts -/

/-- A text whose escapes are undone, where a zero begins an octal number and `x` a hexadecimal
one. -/
def openedEscapes : Nat → List Char → List Char × Bool
  | 0, text => (text, false)
  | _ + 1, [] => ([], false)
  | _ + 1, '\\' :: 'c' :: _ => ([], true)
  | limit + 1, '\\' :: 'x' :: rest =>
    let digits := (rest.take 2).takeWhile fun digit => Arithmetic.digitValue digit < 16
    let (further, isCut) := openedEscapes limit (rest.drop digits.length)
    if digits = [] then ('\\' :: 'x' :: further, isCut)
    else (Char.ofNat (Arithmetic.digitsIn 16 digits).1 :: further, isCut)
  | limit + 1, '\\' :: 'e' :: rest =>
    let (further, isCut) := openedEscapes limit rest
    ('\x1b' :: further, isCut)
  | limit + 1, '\\' :: '0' :: rest =>
    let (value, after) := Print.octal 3 rest
    let (further, isCut) := openedEscapes limit after
    (Char.ofNat (value % 256) :: further, isCut)
  | limit + 1, '\\' :: rest =>
    let (character, after) := Print.escaped rest
    let (further, isCut) := openedEscapes limit after
    (character :: further, isCut)
  | limit + 1, character :: rest =>
    let (further, isCut) := openedEscapes limit rest
    (character :: further, isCut)

/-- Repeats its arguments; its options are `-n`, `-e` and `-E`. -/
def echo (call : Call) : Written :=
  let isOption (text : String) : Bool := match text.toList with
    | '-' :: letter :: letters => (letter :: letters).all fun letter => ['n', 'e', 'E'].contains letter
    | _ => false
  let options := call.arguments.takeWhile isOption
  let letters := options.flatMap fun text => text.toList.drop 1
  let isOpen := letters.contains 'n'
  let opens := (letters.filter (· ≠ 'n')).getLast? == some 'e'
  let text := (" ".intercalate (call.arguments.drop options.length)).toList
  let (text, isCut) := if opens then openedEscapes (text.length + 1) text else (text, false)
  call.nothing.say (String.ofList (text ++ if isOpen || isCut then [] else ['\n']))

/-- Prints by a format. -/
def printf (call : Call) : Written :=
  match call.arguments with
  | [] => call.misused "missing operand" 1
  | format :: arguments =>
    let (print, complaint) := Print.formatted format.toList (arguments.length + 1) arguments {}
    let written := call.nothing.say (String.ofList print.output)
    (print.complaints ++ complaint.toList).foldl (fun written text => written.complain call text 1) written

/-- Shows variables of the environment. -/
def printenv (call : Call) : Written :=
  call.withOptions { flags := "0", anywhere := false, long := [("null", '0')] } 2 fun options =>
    let environment := call.host.environment
    let ending := if options.has '0' then "\x00" else "\n"
    let ended (texts : List String) : String :=
      String.join (texts.map fun text => octetsOf text ++ ending)
    if options.operands.isEmpty then
      call.nothing.say (ended (environment.map fun (name, value) => name ++ "=" ++ value))
    else
      let values := options.operands.map fun name => environment.lookup (textOf name)
      { call.nothing.say (ended (values.filterMap id)) with
        status := if values.any Option.isNone then 1 else 0 }

/-- Shows the working directory. -/
def pwd (call : Call) : Written :=
  call.withOptions { flags := "LP", long := [("logical", 'L'), ("physical", 'P')] } 1 fun _ =>
    call.nothing.say (octetsOf call.host.workingPath.text ++ "\n")

/-- What is said of a condition that is none. -/
def conditionFault (words : List String) : Condition.Fault → String
  | .noBracket => "missing " ++ quotedName "]"
  | .noParenthesis => quotedName ")" ++ " expected"
  | .noOperand word => "missing argument after " ++ quotedName word
  | .surplus word =>
    "extra argument " ++ quotedName (if words.head? = some word then (words[1]?).getD word else word)
  | .noNumber word => "invalid integer " ++ quotedName word

/-- Tests a condition. -/
def test (call : Call) : Written :=
  match Condition.holds call.host (lastName call.name) call.arguments with
  | .ok value => { call.nothing with status := if value then 0 else 1 }
  | .error fault => call.nothing.complain call (conditionFault call.arguments fault) 2

/-- Succeeds. -/
def succeed (call : Call) : Written := call.nothing

/-- Fails. -/
def failing (call : Call) : Written := { call.nothing with status := 1 }

/-- Waits, for which no time passes. -/
def sleep (call : Call) : Written :=
  call.withOptions { flags := "" } 1 fun options =>
    let isTime (text : String) : Bool :=
      let text := match text.toList.getLast? with
        | some letter =>
          if ['s', 'm', 'h', 'd'].contains letter then String.ofList text.toList.dropLast else text
        | none => text
      (decimal? text).isSome
    match options.operands with
    | [] => call.misused "missing operand" 1
    | operands =>
      match operands.find? fun text => !isTime text with
      | some text => call.misused ("invalid time interval " ++ quotedName text) 1
      | none => call.nothing

/-- Repeats a line many times. -/
def yes (call : Call) : Written :=
  let line := if call.arguments.isEmpty then "y" else " ".intercalate call.arguments
  call.nothing.say (ofLines (List.replicate 5000 line))

/-- The name of the system. -/
def uname (call : Call) : Written :=
  call.withOptions { flags := "snrvmpioa" } 1 fun options =>
    if options.has 'm' then call.nothing.say "x86_64\n"
    else if options.has 'o' then call.nothing.say "GNU/Linux\n"
    else call.nothing.say "Linux\n"

end DecompileServer.Program.Utility

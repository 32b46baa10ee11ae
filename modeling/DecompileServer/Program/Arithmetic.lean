import DecompileServer.Program.Script

/-!
# Arithmetic in scripts

Expressions are over integers of 64 bits with a sign, which wrap around. A variable that does not
hold a number is at fault; one that is empty counts as zero. Assignments are made as they are met.
-/
namespace DecompileServer.Program.Arithmetic

/-- Why an expression has no value. -/
inductive Fault where
  /-- An operand is missing. -/
  | noOperand
  /-- Something follows the expression. -/
  | surplus
  /-- A closing parenthesis is missing. -/
  | noParenthesis
  /-- The colon of a choice is missing. -/
  | noColon
  /-- A division is by zero. -/
  | zeroDivisor
  /-- A variable does not hold a number. -/
  | noNumber (text : String)
  deriving DecidableEq, Repr

/-- The wording of a fault of an expression. -/
def Fault.message (fault : Fault) (expression : String) : String :=
  let about (reason : String) : String :=
    "arithmetic expression: " ++ reason ++ ": \"" ++ expression ++ "\""
  match fault with
  | .noOperand => about "expecting primary"
  | .surplus => about "expecting EOF"
  | .noParenthesis => about "expecting ')'"
  | .noColon => about "expecting ':'"
  | .zeroDivisor => about "division by zero"
  | .noNumber text => "Illegal number: " ++ text

/-- A piece of an expression. -/
inductive Token where
  /-- A number. -/
  | number (value : Int)
  /-- The name of a variable. -/
  | name (text : String)
  /-- An operator or a parenthesis; one of no meaning is empty. -/
  | mark (text : String)
  deriving DecidableEq, Repr

/-- The integer of 64 bits that an integer wraps around to. -/
def wrapped (value : Int) : Int := Int.bmod value 0x10000000000000000

/-- The integer of 64 bits that is nearest to an integer. -/
def clamped (value : Int) : Int :=
  min (max value (-0x8000000000000000)) 0x7FFFFFFFFFFFFFFF

/-- The value of a digit in any base up to sixteen. -/
def digitValue (character : Char) : Nat :=
  if character.isDigit then character.toNat - 48
  else if 'a' ≤ character ∧ character ≤ 'f' then character.toNat - 87
  else if 'A' ≤ character ∧ character ≤ 'F' then character.toNat - 55
  else 16

/-- The number that digits write in a base, with what follows them. -/
def digitsIn (base : Nat) (text : List Char) : Nat × List Char :=
  let digits := text.takeWhile fun character => digitValue character < base
  (digits.foldl (fun value digit => value * base + digitValue digit) 0, text.drop digits.length)

/-- The number at the front of a text, whose beginning tells its base, with what follows it. -/
def numberAt (text : List Char) : Nat × List Char :=
  match text with
  | '0' :: mark :: digit :: rest =>
    if (mark = 'x' ∨ mark = 'X') ∧ digitValue digit < 16 then digitsIn 16 (digit :: rest)
    else digitsIn 8 text
  | '0' :: _ => digitsIn 8 text
  | _ => digitsIn 10 text

/-- Whether a character is white space. -/
def isSpace (character : Char) : Bool :=
  character == ' ' || (9 ≤ character.toNat && character.toNat ≤ 13)

/-- The number that a whole text writes, white space around it and a sign being allowed. Nothing at
all counts as zero. -/
def numberOf? (text : String) : Option Int :=
  let characters := text.toList.dropWhile isSpace
  let (isNegative, digits) := match characters with
    | '-' :: digits => (true, digits)
    | '+' :: digits => (false, digits)
    | digits => (false, digits)
  let (value, after) := numberAt digits
  let hasDigits := digits.length ≠ after.length
  if (after.all isSpace && hasDigits) || text.toList.all isSpace then
    some (clamped (if isNegative then -value else value))
  else none

/-- The operators, the longer ones first. -/
def operators : List String :=
  ["<<=", ">>=", "&&", "||", "==", "!=", "<=", ">=", "<<", ">>", "*=", "/=", "%=", "+=", "-=", "&=", "^=",
    "|=", "=", "<", ">", "+", "-", "*", "/", "%", "&", "^", "|", "!", "~", "(", ")", "?", ":"]

/-- The pieces of an expression. -/
def tokens : Nat → List Char → List Token
  | 0, _ => []
  | _ + 1, [] => []
  | limit + 1, first :: rest =>
    if first = ' ' ∨ first = '\t' ∨ first = '\n' then tokens limit rest
    else if first.isDigit then
      let (value, after) := numberAt (first :: rest)
      .number (clamped value) :: tokens limit after
    else if isNameStart first then
      let name := (first :: rest).takeWhile isNameCharacter
      .name (String.ofList name) :: tokens limit ((first :: rest).drop name.length)
    else
      match operators.find? fun operator => operator.toList.isPrefixOf (first :: rest) with
      | some operator => .mark operator :: tokens limit ((first :: rest).drop operator.length)
      | none => [.mark ""]

/-- How loosely an operator binds, if it has two operands that are both evaluated. -/
def looseness? (operator : String) : Option Nat :=
  [("*", 0), ("/", 0), ("%", 0), ("+", 1), ("-", 1), ("<<", 2), (">>", 2), ("<", 3), ("<=", 3), (">", 3),
    (">=", 3), ("==", 4), ("!=", 4), ("&", 5), ("^", 6), ("|", 7)].lookup operator

/-- The word of 64 bits of an integer. -/
def wordOf (value : Int) : UInt64 := UInt64.ofNat (value % 0x10000000000000000).toNat

/-- The integer of a word of 64 bits. -/
def ofWord (word : UInt64) : Int := wrapped word.toNat

/-- One or zero. -/
def truth (condition : Bool) : Int := if condition then 1 else 0

/-- The value of an operator. -/
def apply (operator : String) (left right : Int) : Except Fault Int :=
  match operator with
  | "*" => .ok (wrapped (left * right))
  | "+" => .ok (wrapped (left + right))
  | "-" => .ok (wrapped (left - right))
  | "<<" => .ok (ofWord (wordOf left <<< wordOf right))
  | ">>" => .ok (left >>> (right % 64).toNat)
  | "<" => .ok (truth (left < right))
  | "<=" => .ok (truth (left ≤ right))
  | ">" => .ok (truth (right < left))
  | ">=" => .ok (truth (right ≤ left))
  | "==" => .ok (truth (left == right))
  | "!=" => .ok (truth (left != right))
  | "&" => .ok (ofWord (wordOf left &&& wordOf right))
  | "^" => .ok (ofWord (wordOf left ^^^ wordOf right))
  | "|" => .ok (ofWord (wordOf left ||| wordOf right))
  | operator =>
    if right = 0 then .error .zeroDivisor
    else .ok (wrapped (if operator = "%" then Int.tmod left right else Int.tdiv left right))

/-- Where an evaluation stands. -/
structure Progress where
  /-- The pieces that are left. -/
  rest : List Token
  /-- The variables that have been assigned to, the last first. -/
  assigned : List (String × Int) := []

/-- A part of an evaluation, which sees the variables. -/
abbrev Evaluation := ReaderT (String → String) (StateT Progress (Except Fault))

/-- Takes the next piece, or none at the end. -/
def take : Evaluation (Option Token) :=
  modifyGet fun progress => (progress.rest.head?, { progress with rest := progress.rest.drop 1 })

/-- The next piece. -/
def look : Evaluation (Option Token) := do
  pure (← get).rest.head?

/-- The value of a variable. -/
def valueOf (name : String) : Evaluation Int := do
  match (← get).assigned.lookup name with
  | some value => pure value
  | none =>
    let text := (← read) name
    match numberOf? text with
    | some value => pure value
    | none => throw (.noNumber text)

/-- Sets a variable. -/
def assign (name : String) (value : Int) : Evaluation Unit :=
  modify fun progress => { progress with assigned := (name, value) :: progress.assigned }

mutual

/-- An operand. Nothing is looked up or assigned if `isIdle`. -/
def operand : Nat → Bool → Evaluation Int
  | 0, _ => throw .noOperand
  | limit + 1, isIdle => do
    match ← take with
    | some (.number value) => pure value
    | some (.name name) => if isIdle then pure 0 else valueOf name
    | some (.mark "(") =>
      let value ← assignment limit isIdle
      match ← take with
      | some (.mark ")") => pure value
      | _ => throw .noParenthesis
    | some (.mark "+") => operand limit isIdle
    | some (.mark "-") => do pure (wrapped (-(← operand limit isIdle)))
    | some (.mark "!") => do pure (truth ((← operand limit isIdle) == 0))
    | some (.mark "~") => do pure (-(← operand limit isIdle) - 1)
    | _ => throw .noOperand

/-- Operators that bind less loosely than a bound, applied from the left. -/
def operations : Nat → Bool → Nat → Int → Evaluation Int
  | 0, _, _, left => pure left
  | limit + 1, isIdle, bound, left => do
    match ← look with
    | some (.mark operator) =>
      match looseness? operator with
      | some loose =>
        if loose < bound then
          let _ ← take
          let right ← operations limit isIdle loose (← operand limit isIdle)
          let value ← if isIdle then pure right else apply operator left right
          operations limit isIdle bound value
        else pure left
      | none => pure left
    | _ => pure left

/-- Operands that all have to be other than zero. -/
def conjunction : Nat → Bool → Evaluation Int
  | 0, _ => throw .noOperand
  | limit + 1, isIdle => do
    let left ← operations limit isIdle 8 (← operand limit isIdle)
    match ← look with
    | some (.mark "&&") =>
      let _ ← take
      let right ← conjunction limit (isIdle || left == 0)
      pure (truth (left != 0 && right != 0))
    | _ => pure left

/-- Operands of which one has to be other than zero. -/
def disjunction : Nat → Bool → Evaluation Int
  | 0, _ => throw .noOperand
  | limit + 1, isIdle => do
    let left ← conjunction limit isIdle
    match ← look with
    | some (.mark "||") =>
      let _ ← take
      let right ← disjunction limit (isIdle || left != 0)
      pure (truth (left != 0 || right != 0))
    | _ => pure left

/-- A choice between two values. -/
def choice : Nat → Bool → Evaluation Int
  | 0, _ => throw .noOperand
  | limit + 1, isIdle => do
    let test ← disjunction limit isIdle
    match ← look with
    | some (.mark "?") =>
      let _ ← take
      let first ← assignment limit (isIdle || test == 0)
      match ← take with
      | some (.mark ":") =>
        let second ← choice limit (isIdle || test != 0)
        pure (if test != 0 then first else second)
      | _ => throw .noColon
    | _ => pure test

/-- An assignment, or a choice. -/
def assignment : Nat → Bool → Evaluation Int
  | 0, _ => throw .noOperand
  | limit + 1, isIdle => do
    match (← get).rest with
    | .name name :: .mark "=" :: rest =>
      modify fun progress => { progress with rest }
      let value ← assignment limit isIdle
      if !isIdle then assign name value
      pure value
    | .name name :: .mark operator :: rest =>
      let binary := String.ofList operator.toList.dropLast
      if operator.toList.getLast? = some '=' ∧ (looseness? operator).isNone ∧
          (looseness? binary).isSome then
        modify fun progress => { progress with rest }
        let right ← assignment limit isIdle
        if isIdle then pure right
        else
          let value ← apply binary (← valueOf name) right
          assign name value
          pure value
      else choice limit isIdle
    | _ => choice limit isIdle

end

/-- The value of an expression, with the variables that are set, the last first. -/
def evaluate (expression : String) (known : String → String) :
    Except Fault (Int × List (String × Int)) := do
  let pieces := tokens (expression.length + 1) expression.toList
  let (value, progress) ← ((assignment (8 * pieces.length + 8) false).run known).run
    { rest := pieces }
  if progress.rest.isEmpty then pure (value, progress.assigned) else throw .surplus

end DecompileServer.Program.Arithmetic

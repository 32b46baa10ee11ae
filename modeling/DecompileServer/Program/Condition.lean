import DecompileServer.Disk.Host
import DecompileServer.Program.Arithmetic
import DecompileServer.Program.Octets

/-!
# Conditions

A condition compares texts or numbers, or asks about files. With three words the middle one decides
what is meant; longer conditions are read from the left, where `-o` joins those that `-a` joins.
-/
namespace DecompileServer.Program.Condition

/-- Why a condition is none. -/
inductive Fault where
  /-- The closing bracket is missing. -/
  | noBracket
  /-- A closing parenthesis is missing. -/
  | noParenthesis
  /-- An operator has no operand. -/
  | noOperand (operator : String)
  /-- Something follows the condition. -/
  | surplus (word : String)
  /-- A number is wanted. -/
  | noNumber (word : String)
  deriving DecidableEq, Repr

/-- The wording of a fault. -/
def Fault.message : Fault → String
  | .noBracket => "missing ]"
  | .noParenthesis => "closing paren expected"
  | .noOperand operator => operator ++ ": argument expected"
  | .surplus word => word ++ ": unexpected operator"
  | .noNumber word => "Illegal number: " ++ word

/-- What a word is in a condition. -/
inductive Role where
  /-- The end of the words. -/
  | finish
  /-- An operand. -/
  | operand
  /-- An operator before its operand. -/
  | unary (operator : String)
  /-- An operator between its operands. -/
  | binary (operator : String)
  /-- The negation. -/
  | negation
  /-- The conjunction. -/
  | both
  /-- The disjunction. -/
  | either
  /-- The opening parenthesis. -/
  | openParenthesis
  /-- The closing parenthesis. -/
  | closeParenthesis
  deriving DecidableEq, Repr

/-- The operators before their operand. -/
def unaryOperators : List String :=
  ["-r", "-w", "-x", "-e", "-f", "-d", "-c", "-b", "-p", "-u", "-g", "-k", "-s", "-t", "-z", "-n", "-h",
    "-O", "-G", "-L", "-S"]

/-- The operators between their operands. -/
def binaryOperators : List String :=
  ["=", "==", "!=", "<", ">", "-eq", "-ne", "-ge", "-gt", "-le", "-lt", "-nt", "-ot", "-ef"]

/-- What a word is if it is an operator. -/
def operatorRole? (word : String) : Option Role :=
  if unaryOperators.contains word then some (.unary word)
  else if binaryOperators.contains word && word ≠ "==" then some (.binary word)
  else
    [("!", Role.negation), ("-a", .both), ("-o", .either), ("(", .openParenthesis),
      (")", .closeParenthesis)].lookup word

/-- Whether an operator before its operand is an operand itself, by the words that follow it. -/
def isOperand : List String → Bool
  | [] => true
  | [_] => false
  | next :: _ :: _ =>
    match operatorRole? next with
    | some (.binary _) => true
    | _ => false

/-- What the first of some words is. -/
def role (words : List String) : Role :=
  match words with
  | [] => .finish
  | word :: rest =>
    match operatorRole? word with
    | some (.unary operator) => if isOperand rest then .operand else .unary operator
    | some .openParenthesis => if rest.isEmpty then .operand else .openParenthesis
    | some other => other
    | none => .operand

/-- The number that a word is. -/
def numberOf (word : String) : Except Fault Int :=
  let characters := word.toList.dropWhile Arithmetic.isSpace
  let (isNegative, digits) := match characters with
    | '-' :: digits => (true, digits)
    | '+' :: digits => (false, digits)
    | digits => (false, digits)
  let (value, after) := Arithmetic.digitsIn 10 digits
  if digits.length ≠ after.length ∧ after.all Arithmetic.isSpace then
    .ok (if isNegative then -(value : Int) else value)
  else .error (.noNumber word)

/-- Whether a file is as an operator asks. -/
def ofFile (host : Host) (operator word : String) : Bool :=
  let isDevice := word == "/dev/null"
  match host.nodeAt ⟨textOf word⟩ with
  | .error _ => isDevice && ["-e", "-r", "-w", "-c"].contains operator
  | .ok node =>
    match operator, node with
    | "-f", .file .. | "-d", .directory => true
    | "-x", .file _ executable => executable
    | "-s", .file content _ => !content.isEmpty
    | "-x", .directory | "-s", .directory => true
    | operator, _ => ["-e", "-r", "-w", "-O", "-G"].contains operator

/-- The value of an operator before its operand. -/
def unary (host : Host) (operator word : String) : Except Fault Bool :=
  match operator with
  | "-z" => .ok (word == "")
  | "-n" => .ok (word != "")
  | "-t" => (numberOf word).map fun _ => false
  | operator => .ok (ofFile host operator word)

/-- The value of an operator between its operands. -/
def binary (host : Host) (operator left right : String) : Except Fault Bool := do
  let numbers (compare : Int → Int → Bool) : Except Fault Bool := do
    let left ← numberOf left
    let right ← numberOf right
    pure (compare left right)
  match operator with
  | "=" => pure (left == right)
  | "!=" => pure (left != right)
  | "<" => pure (left < right)
  | ">" => pure (right < left)
  | "-eq" => numbers fun left right => left == right
  | "-ne" => numbers fun left right => left != right
  | "-lt" => numbers fun left right => left < right
  | "-le" => numbers fun left right => left ≤ right
  | "-gt" => numbers fun left right => right < left
  | "-ge" => numbers fun left right => right ≤ left
  | "-ef" =>
    match host.locate ⟨textOf left⟩, host.locate ⟨textOf right⟩ with
    | .ok first, .ok second => pure (first == second)
    | _, _ => pure false
  | _ => pure false

mutual

/-- The value of the words from the given ones on, with the last word that was looked at and those
after it. -/
def primary (host : Host) : Nat → List String → Except Fault (Bool × List String)
  | 0, words => .ok (false, words)
  | limit + 1, words =>
    match role words, words with
    | .openParenthesis, _ :: inside =>
      if role inside = .closeParenthesis then .ok (false, inside)
      else do
        let (value, after) ← disjunction host limit inside
        match role (after.drop 1) with
        | .closeParenthesis => pure (value, after.drop 1)
        | _ => throw .noParenthesis
    | .unary operator, _ :: [] => .error (.noOperand operator)
    | .unary operator, _ :: word :: rest => do
      let value ← unary host operator word
      pure (value, word :: rest)
    | .finish, _ | _, [] => .ok (false, words)
    | _, word :: rest =>
      match role rest, rest with
      | .binary operator, [_] => .error (.noOperand operator)
      | .binary operator, _ :: right :: after => do
        let value ← binary host operator word right
        pure (value, right :: after)
      | _, _ => .ok (word != "", words)

/-- A value that may be negated. -/
def negated (host : Host) : Nat → List String → Except Fault (Bool × List String)
  | 0, words => .ok (false, words)
  | limit + 1, words =>
    if role words = .negation then
      match words.drop 1 with
      | [] => .ok (true, words)
      | rest => do
        let (value, after) ← negated host limit rest
        pure (!value, after)
    else primary host limit words

/-- Values that all have to hold. -/
def conjunction (host : Host) : Nat → List String → Except Fault (Bool × List String)
  | 0, words => .ok (false, words)
  | limit + 1, words => do
    let (value, after) ← negated host limit words
    if role (after.drop 1) = .both then
      let (further, last) ← conjunction host limit (after.drop 2)
      pure (value && further, last)
    else pure (value, after)

/-- Values of which one has to hold. -/
def disjunction (host : Host) : Nat → List String → Except Fault (Bool × List String)
  | 0, words => .ok (false, words)
  | limit + 1, words => do
    let (value, after) ← conjunction host limit words
    if role (after.drop 1) = .either then
      let (further, last) ← disjunction host limit (after.drop 2)
      pure (value || further, last)
    else pure (value, after)

end

/-- The value of three words of which the middle one is an operator. -/
def ofThree? (host : Host) : List String → Option (Except Fault Bool)
  | [left, operator, right] =>
    match operatorRole? operator with
    | some (.binary operator) => some (binary host operator left right)
    | _ => none
  | _ => none

/-- The value of words. -/
def evaluate (host : Host) : Nat → Bool → List String → Except Fault Bool
  | 0, _, _ => .ok false
  | limit + 1, isNegated, words =>
    let whole (words : List String) : Except Fault Bool := do
      let (value, after) ← disjunction host (8 * words.length + 8) words
      match after with
      | _ :: surplus :: _ => throw (.surplus (after.headD surplus))
      | _ => pure (value != isNegated)
    match words with
    | [] => .ok isNegated
    | words =>
      match ofThree? host words with
      | some value => value.map (· != isNegated)
      | none =>
        if words.length = 3 ∨ words.length = 4 then
          if words.head? = some "(" ∧ words.getLast? = some ")" then
            whole ((words.drop 1).dropLast)
          else if words.head? = some "!" then evaluate host limit (!isNegated) (words.drop 1)
          else whole words
        else whole words

/-- Whether the condition of a command holds. -/
def holds (host : Host) (name : String) (words : List String) : Except Fault Bool :=
  if name = "[" then
    if words.getLast? = some "]" then evaluate host (words.length + 1) false words.dropLast
    else .error .noBracket
  else evaluate host (words.length + 1) false words

end DecompileServer.Program.Condition

import DecompileServer.Program.Awk.Term
import DecompileServer.Program.Printed

/-!
# Reading rules

Words, numbers, texts, expressions and marks make up the rules. A slash begins an expression where no
operand stands before it. A line ends a statement, unless it ends behind a mark that asks for more.
-/
namespace DecompileServer.Program.Awk

/-! ### Pieces -/

/-- A piece of a program. -/
inductive Piece where
  /-- A number. -/
  | number (value : Float)
  /-- A text between quotes. -/
  | text (value : String)
  /-- An expression between slashes. -/
  | expression (value : String)
  /-- A name. -/
  | name (value : String)
  /-- The name of a function. -/
  | function (value : String)
  /-- A word with a meaning. -/
  | keyword (value : String)
  /-- An operator or a bracket. -/
  | mark (value : String)
  /-- The end of a line. -/
  | line

/-- A piece with its spelling. -/
structure Spelled where
  /-- The piece. -/
  piece : Piece
  /-- The spelling. -/
  spelling : String

/-- Words with a meaning. -/
def keywords : List String :=
  ["BEGIN", "END", "if", "else", "while", "for", "do", "in", "print", "printf", "next", "exit", "break",
    "continue", "delete"]

/-- Functions with the least and the greatest number of arguments. -/
def functions : List (String × Nat × Nat) :=
  [("length", 0, 1), ("substr", 2, 3), ("index", 2, 2), ("split", 2, 3), ("sub", 2, 3), ("gsub", 2, 3),
    ("match", 2, 2), ("sprintf", 1, 100), ("sin", 1, 1), ("cos", 1, 1), ("exp", 1, 1), ("log", 1, 1),
    ("sqrt", 1, 1), ("int", 1, 1), ("atan2", 2, 2), ("tolower", 1, 1), ("toupper", 1, 1), ("close", 1, 2),
    ("fflush", 0, 1)]

/-- Operators and brackets, the longer ones first. -/
def marks : List String :=
  ["&&", "||", "^=", "+=", "-=", "*=", "/=", "%=", "==", "<=", ">=", "!=", "!~", "++", "--", ">>", "\x7b",
    "\x7d", "(", ")", "[", "]", ";", ",", "+", "-", "*", "/", "%", "^", "!", ">", "<", "|", "?", ":", "~",
    "$", "="]

/-- A text between quotes, whose first quote has been taken, with what follows it; `none` if nothing closes
it. -/
def quoted : Nat → List Char → List Char → Option (List Char × List Char)
  | 0, _, _ => none
  | _ + 1, _, [] | _ + 1, _, '\n' :: _ => none
  | _ + 1, taken, '"' :: rest => some (taken.reverse, rest)
  | limit + 1, taken, '\\' :: '"' :: rest => quoted limit ('"' :: taken) rest
  | limit + 1, taken, '\\' :: '\n' :: rest => quoted limit taken rest
  | limit + 1, taken, '\\' :: 'e' :: rest => quoted limit ('e' :: '\\' :: taken) rest
  | limit + 1, taken, '\\' :: 'x' :: rest =>
    let digits := (rest.take 2).takeWhile fun digit => Arithmetic.digitValue digit < 16
    if digits = [] then quoted limit ('x' :: '\\' :: taken) rest
    else quoted limit (Char.ofNat (Arithmetic.digitsIn 16 digits).1 :: taken) (rest.drop digits.length)
  | limit + 1, taken, '\\' :: rest =>
    let (character, after) := Print.escaped rest
    if character = '\\' ∧ rest.head? ≠ some '\\' then quoted limit ('\\' :: taken) rest
    else quoted limit (character :: taken) after
  | limit + 1, taken, character :: rest => quoted limit (character :: taken) rest

/-- An expression between slashes, whose first slash has been taken, with what follows it; `none` if
nothing closes it. -/
def slashed : Nat → Bool → List Char → List Char → Option (List Char × List Char)
  | 0, _, _, _ => none
  | _ + 1, _, _, [] | _ + 1, _, _, '\n' :: _ => none
  | limit + 1, isInside, taken, '\\' :: '/' :: rest => slashed limit isInside ('/' :: taken) rest
  | limit + 1, isInside, taken, '\\' :: '"' :: rest => slashed limit isInside ('"' :: taken) rest
  | limit + 1, isInside, taken, '\\' :: letter :: rest =>
    slashed limit isInside (letter :: '\\' :: taken) rest
  | limit + 1, isInside, taken, character :: rest =>
    if character = '/' ∧ !isInside then some (taken.reverse, rest)
    else
      let isFirst := taken.head? = some '[' ∨ (taken.take 2 = ['^', '['])
      let isInside := if character = '[' then true
        else if character = ']' ∧ !isFirst then false else isInside
      slashed limit isInside (character :: taken) rest

/-- The spelling of a number at the front of a text. -/
def numeral (text : List Char) : List Char :=
  let whole := text.takeWhile Char.isDigit
  let rest := text.drop whole.length
  let places := match rest with
    | '.' :: rest => '.' :: rest.takeWhile Char.isDigit
    | _ => []
  let power := match rest.drop places.length with
    | mark :: sign :: digit :: rest =>
      if mark = 'e' ∨ mark = 'E' then
        if sign.isDigit then mark :: (sign :: digit :: rest).takeWhile Char.isDigit
        else if (sign = '+' ∨ sign = '-') ∧ digit.isDigit then
          mark :: sign :: (digit :: rest).takeWhile Char.isDigit
        else []
      else []
    | [mark, digit] => if (mark = 'e' ∨ mark = 'E') ∧ digit.isDigit then [mark, digit] else []
    | _ => []
  whole ++ places ++ power

/-- The number that a text begins with, zero if it begins with none. -/
def numberIn (text : String) : Float :=
  Float.ofBits (Print.realOf text).1.bits

/-- Whether an operand may end with a piece, so that a slash behind it divides. -/
def endsOperand : Option Spelled → Bool
  | some ⟨.number _, _⟩ | some ⟨.text _, _⟩ | some ⟨.name _, _⟩ | some ⟨.function _, _⟩ => true
  | some ⟨.mark mark, _⟩ => [")", "]", "$", "++", "--"].contains mark
  | _ => false

/-- The beginning of a text that is not closed. -/
def runaway (kind : String) (mark : Char) (text : List Char) : String :=
  "line 1: runaway " ++ kind ++ " " ++ String.ofList (mark :: text.take 10) ++ " ..."

/-- The pieces of a program, or what is wrong with it. -/
def pieces : Nat → Option Spelled → List Char → Except String (List Spelled)
  | 0, _, _ => .ok []
  | _ + 1, _, [] => .ok []
  | limit + 1, before, first :: rest => do
    let goOn (piece : Piece) (spelling : List Char) (after : List Char) : Except String (List Spelled) := do
      let one : Spelled := ⟨piece, String.ofList spelling⟩
      pure (one :: (← pieces limit (some one) after))
    if first = '\n' then goOn .line [] rest
    else if Arithmetic.isSpace first then pieces limit before rest
    else if first = '\\' ∧ rest.head? = some '\n' then pieces limit before (rest.drop 1)
    else if first = '#' then pieces limit before (rest.dropWhile (· ≠ '\n'))
    else if first = '"' then
      match quoted (rest.length + 1) [] rest with
      | some (text, after) =>
        goOn (.text (String.ofList text)) (first :: rest.take (rest.length - after.length)) after
      | none => throw (runaway "string constant" first rest)
    else if first = '/' ∧ !endsOperand before then
      match slashed (rest.length + 1) false [] rest with
      | some (text, after) =>
        goOn (.expression (String.ofList text)) (first :: rest.take (rest.length - after.length)) after
      | none => throw (runaway "regular expression" first rest)
    else if first.isDigit ∨ (first = '.' ∧ rest.head?.any Char.isDigit) then
      let spelling := numeral (first :: rest)
      goOn (.number (numberIn (String.ofList spelling))) spelling ((first :: rest).drop spelling.length)
    else if isNameStart first then
      let letters := (first :: rest).takeWhile isNameCharacter
      let word := String.ofList letters
      let piece : Piece :=
        if keywords.contains word then .keyword word
        else if (functions.lookup word).isSome then .function word else .name word
      goOn piece letters ((first :: rest).drop letters.length)
    else
      match marks.find? fun mark => mark.toList.isPrefixOf (first :: rest) with
      | some mark => goOn (.mark mark) mark.toList ((first :: rest).drop mark.length)
      | none => throw ("1: unexpected character '" ++ first.toString ++ "'")

/-! ### Terms -/

/-- Reads pieces. Where it fails it leaves what it is about; the number of lines counts too. -/
abbrev Reader := StateT (List Spelled × Nat) (Except String)

/-- Complains about the next piece. -/
def refuse {α : Type} : Reader α := do
  let (rest, line) ← get
  let about := match rest with
    | [] | ⟨.line, _⟩ :: _ => "end of line"
    | one :: _ => one.spelling
  throw ("line " ++ toString line ++ ": syntax error at or near " ++ about)

/-- The next piece. -/
def look : Reader (Option Piece) := do
  pure ((← get).1.head?.map Spelled.piece)

/-- Passes the next piece. -/
def pass : Reader Unit :=
  modify fun (rest, line) =>
    match rest with
    | ⟨.line, _⟩ :: rest => (rest, line + 1)
    | rest => (rest.drop 1, line)

/-- Passes a mark, if it is the next piece. -/
def accepts (mark : String) : Reader Bool := do
  match ← look with
  | some (.mark found) =>
    if found = mark then do
      pass
      pure true
    else pure false
  | _ => pure false

/-- Passes a keyword, if it is the next piece. -/
def acceptsWord (word : String) : Reader Bool := do
  match ← look with
  | some (.keyword found) =>
    if found = word then do
      pass
      pure true
    else pure false
  | _ => pure false

/-- Passes a mark. -/
def expect (mark : String) : Reader Unit := do
  if !(← accepts mark) then refuse

/-- Passes ends of lines. -/
def passLines : Reader Unit :=
  modify fun (rest, line) =>
    let isLine : Spelled → Bool
      | ⟨.line, _⟩ => true
      | _ => false
    let passed := rest.takeWhile isLine
    (rest.drop passed.length, line + passed.length)

/-- Whether a piece can begin an operand that is put behind another. -/
def beginsOperand : Option Piece → Bool
  | some (.number _) | some (.text _) | some (.expression _) | some (.name _) | some (.function _) => true
  | some (.mark mark) => ["$", "(", "!", "++", "--"].contains mark
  | _ => false

/-- The operators with two operands of a level, of which the lower ones bind more loosely. -/
def operatorsAt (level : Nat) (allowsGreater : Bool) : List String :=
  match level with
  | 1 => ["||"]
  | 2 => ["&&"]
  | 4 => ["~", "!~"]
  | 5 => ["<", "<=", "==", "!=", ">="] ++ if allowsGreater then [">"] else []
  | 7 => ["+", "-"]
  | 8 => ["*", "/", "%"]
  | _ => []

/-- The level of what is put together without a mark. -/
def joinedLevel : Nat := 6

/-- The level of membership in arrays. -/
def membershipLevel : Nat := 3

/-- The level of operators with one operand. -/
def unaryLevel : Nat := 9

/-- Whether something can be assigned to a term. -/
def Term.isTarget : Term → Bool
  | .name _ | .field _ | .element .. => true
  | _ => false

/-- What is wrong with the number of arguments of a function. -/
def checkArguments (name : String) (count : Nat) : Reader Unit := do
  match functions.lookup name with
  | some (least, most) =>
    if count < least ∨ most < count then
      throw ("line " ++ toString (← get).2 ++ ": wrong number of arguments in call to " ++ name)
  | none => pure ()

mutual

/-- Reads a term. The flag tells whether a greater sign compares. -/
def readTerm : Nat → Bool → Reader Term
  | 0, _ => refuse
  | limit + 1, allowsGreater => do
    let first ← readLevel limit 1 allowsGreater
    if ← accepts "?" then
      passLines
      let second ← readTerm limit allowsGreater
      passLines
      expect ":"
      passLines
      pure (.choice first second (← readTerm limit allowsGreater))
    else if first.isTarget then
      match ← look with
      | some (.mark mark) =>
        if ["=", "^=", "+=", "-=", "*=", "/=", "%="].contains mark then
          pass
          passLines
          let operator := String.ofList mark.toList.dropLast
          pure (.assignment first operator (← readTerm limit allowsGreater))
        else pure first
      | _ => pure first
    else pure first

/-- Reads a term whose operators are of a level or bind more tightly. -/
def readLevel : Nat → Nat → Bool → Reader Term
  | 0, _, _ => refuse
  | limit + 1, level, allowsGreater => do
    if unaryLevel ≤ level then readUnary limit
    else readChain limit level allowsGreater (← readLevel limit (level + 1) allowsGreater)

/-- Reads the operators of a level behind a term, with their operands. -/
def readChain : Nat → Nat → Bool → Term → Reader Term
  | 0, _, _, left => pure left
  | limit + 1, level, allowsGreater, left => do
    let next ← look
    if level = joinedLevel then
      if beginsOperand next then
        let right ← readLevel limit (level + 1) allowsGreater
        readChain limit level allowsGreater (.binary "" left right)
      else pure left
    else if level = membershipLevel then
      match next with
      | some (.keyword "in") => do
        pass
        match ← look with
        | some (.name array) => do
          pass
          let index := match left with
            | .group members => members
            | one => [one]
          readChain limit level allowsGreater (.membership index array)
        | _ => refuse
      | _ => pure left
    else
      match next with
      | some (.mark mark) =>
        if (operatorsAt level allowsGreater).contains mark then do
          pass
          if level ≤ 2 then passLines
          let right ← readLevel limit (level + 1) allowsGreater
          readChain limit level allowsGreater (.binary mark left right)
        else pure left
      | _ => pure left

/-- Reads an operator with one operand, or a power. -/
def readUnary : Nat → Reader Term
  | 0 => refuse
  | limit + 1 => do
    match ← look with
    | some (.mark mark) =>
      if ["!", "-", "+"].contains mark then do
        pass
        pure (.unary mark (← readUnary limit))
      else readPower limit
    | _ => readPower limit

/-- Reads a power. -/
def readPower : Nat → Reader Term
  | 0 => refuse
  | limit + 1 => do
    let base ← readPrimary limit
    let base ← do
      if base.isTarget then
        if ← accepts "++" then pure (.step base true true)
        else if ← accepts "--" then pure (.step base false true)
        else pure base
      else pure base
    if ← accepts "^" then pure (.binary "^" base (← readUnary limit)) else pure base

/-- Reads what binds most tightly. -/
def readPrimary : Nat → Reader Term
  | 0 => refuse
  | limit + 1 => do
    match ← look with
    | some (.number value) => do
      pass
      pure (.number value)
    | some (.text value) => do
      pass
      pure (.text value)
    | some (.expression value) => do
      pass
      pure (.expression (Expression.read true value))
    | some (.name name) => do
      pass
      if ← accepts "[" then do
        let index ← readTerms limit true
        expect "]"
        pure (.element name index)
      else pure (.name name)
    | some (.function name) => do
      pass
      if ← accepts "(" then do
        if ← accepts ")" then do
          checkArguments name 0
          pure (.call name [])
        else do
          let arguments ← readTerms limit true
          expect ")"
          checkArguments name arguments.length
          pure (.call name arguments)
      else do
        if name ≠ "length" then refuse
        pure (.call name [])
    | some (.mark "(") => do
      pass
      let members ← readTerms limit true
      expect ")"
      match members with
      | [one] => pure (if one.isTarget then .group [one] else one)
      | members => pure (.group members)
    | some (.mark "$") => do
      pass
      if ← accepts "-" then pure (.field (.unary "-" (← readPrimary limit)))
      else pure (.field (← readPrimary limit))
    | some (.mark "++") => do
      pass
      pure (.step (← readPrimary limit) true false)
    | some (.mark "--") => do
      pass
      pure (.step (← readPrimary limit) false false)
    | _ => refuse

/-- Reads terms between commas. -/
def readTerms : Nat → Bool → Reader (List Term)
  | 0, _ => refuse
  | limit + 1, allowsGreater => do
    let first ← readTerm limit allowsGreater
    if ← accepts "," then do
      passLines
      pure (first :: (← readTerms limit allowsGreater))
    else pure [first]

end

/-! ### Statements -/

/-- Whether a simple statement can end before a piece. -/
def endsStatement : Option Piece → Bool
  | none | some .line => true
  | some (.mark mark) => mark == ";" || mark == "\x7d"
  | _ => false

/-- Passes the end of a simple statement. -/
def passEnd : Reader Unit := do
  let next ← look
  if !endsStatement next then refuse
  let _ ← accepts ";"
  passLines

/-- Reads what is printed, and where to. -/
def readPrint (limit : Nat) (isFormatted : Bool) : Reader Statement := do
  let next ← look
  let isEmpty := endsStatement next || (match next with
    | some (.mark mark) => mark == ">" || mark == ">>"
    | _ => false)
  let terms ← if isEmpty then pure [] else readTerms limit false
  let terms := match terms with
    | [.group members] => members
    | terms => terms
  if isFormatted ∧ terms.isEmpty then
    throw ("line " ++ toString (← get).2 ++ ": no arguments in call to printf")
  let file ← do
    if ← accepts ">" then pure (some (false, ← readLevel limit joinedLevel false))
    else if ← accepts ">>" then pure (some (true, ← readLevel limit joinedLevel false))
    else pure none
  pure (.print isFormatted terms file)

/-- Reads a simple statement without its end. -/
def readSimple (limit : Nat) : Reader Statement := do
  match ← look with
  | some (.keyword "print") => do
    pass
    readPrint limit false
  | some (.keyword "printf") => do
    pass
    readPrint limit true
  | some (.keyword "delete") => do
    pass
    match ← look with
    | some (.name array) => do
      pass
      if ← accepts "[" then do
        let index ← readTerms limit true
        expect "]"
        pure (.delete array index)
      else pure (.delete array [])
    | _ => refuse
  | some (.keyword "next") => do
    pass
    pure (.leave .next)
  | some (.keyword "break") => do
    pass
    pure (.leave .break)
  | some (.keyword "continue") => do
    pass
    pure (.leave .continue)
  | some (.keyword "exit") => do
    pass
    if endsStatement (← look) then pure (.leave (.exit none)) else pure (.exit (← readTerm limit true))
  | _ => pure (.plain (← readTerm limit true))

/-- Reads a simple statement unless a mark comes first, which is passed. -/
def readUpTo (limit : Nat) (mark : String) : Reader (Option Statement) := do
  if ← accepts mark then pure none
  else do
    let statement ← readSimple limit
    expect mark
    pure (some statement)

mutual

/-- Reads a statement. -/
def readStatement : Nat → Reader Statement
  | 0 => refuse
  | limit + 1 => do
    let nothing : Statement := .block []
    if ← accepts "\x7b" then readBlock limit
    else if ← accepts ";" then do
      passLines
      pure nothing
    else if ← acceptsWord "if" then do
      expect "("
      let condition ← readTerm limit true
      expect ")"
      passLines
      let first ← readStatement limit
      let second ← do
        if ← acceptsWord "else" then do
          passLines
          readStatement limit
        else pure nothing
      pure (.choice condition first second)
    else if ← acceptsWord "while" then do
      expect "("
      let condition ← readTerm limit true
      expect ")"
      if ← accepts ";" then do
        passLines
        pure (.repetition condition nothing nothing false)
      else do
        passLines
        pure (.repetition condition (← readStatement limit) nothing false)
    else if ← acceptsWord "do" then do
      passLines
      let body ← readStatement limit
      if !(← acceptsWord "while") then refuse
      expect "("
      let condition ← readTerm limit true
      expect ")"
      passEnd
      pure (.repetition condition body nothing true)
    else if ← acceptsWord "for" then do
      expect "("
      match (← get).1 with
      | ⟨.name name, _⟩ :: ⟨.keyword "in", _⟩ :: ⟨.name array, _⟩ :: ⟨.mark ")", _⟩ :: rest => do
        modify fun (_, line) => (rest, line)
        passLines
        pure (.each name array (← readStatement limit))
      | _ => do
        let start ← readUpTo limit ";"
        let condition ← do
          if ← accepts ";" then pure (.number 1)
          else do
            let condition ← readTerm limit true
            expect ";"
            pure condition
        let next ← readUpTo limit ")"
        passLines
        let body ← readStatement limit
        pure (.block [start.getD nothing, .repetition condition body (next.getD nothing) false])
    else do
      let statement ← readSimple limit
      passEnd
      pure statement

/-- Reads statements up to a closing brace. -/
def readBlock : Nat → Reader Statement
  | 0 => refuse
  | limit + 1 => do
    passLines
    if ← accepts "\x7d" then do
      let _ ← accepts ";"
      passLines
      pure (.block [])
    else if (← get).1.isEmpty then
      throw ("line " ++ toString ((← get).2 + 1) ++ ": missing \x7d near end of file")
    else do
      let first ← readStatement limit
      match ← readBlock limit with
      | .block rest => pure (.block (first :: rest))
      | other => pure (.block [first, other])

end

/-- Reads rules. -/
def readRules : Nat → Reader (List Rule)
  | 0 => refuse
  | limit + 1 => do
    passLines
    if ← accepts ";" then readRules limit
    else if (← get).1.isEmpty then pure []
    else do
      let isAction : Reader Bool := do
        match ← look with
        | some (.mark mark) => pure (mark == "\x7b")
        | _ => pure false
      let occasion ← do
        if ← isAction then pure .always
        else if ← acceptsWord "BEGIN" then pure .start
        else if ← acceptsWord "END" then pure .finish
        else do
          let first ← readTerm limit true
          if ← accepts "," then do
            passLines
            pure (.range first (← readTerm limit true))
          else pure (.condition first)
      if ← isAction then do
        pass
        let action ← readBlock limit
        pure (⟨occasion, action⟩ :: (← readRules limit))
      else do
        match occasion with
        | .start | .finish => refuse
        | _ => pure ()
        let next ← look
        if !endsStatement next then refuse
        pure (⟨occasion, .print false [] none⟩ :: (← readRules limit))

/-- The rules that a text writes, or what is wrong with it. -/
def rulesOf (text : String) : Except String (List Rule) :=
  (pieces (text.length + 1) none text.toList).bind fun spelled =>
    ((readRules (8 * spelled.length + 40)).run (spelled, 1)).map (·.1)

end DecompileServer.Program.Awk

import DecompileServer.Program.Script

/-!
# Pieces of scripts

A script is read piece by piece. Some words are keywords where a command may begin. The wording of
what is wrong with a script names the piece that does not fit, and the one that would.
-/
namespace DecompileServer.Program

/-- A word with a meaning of its own. -/
inductive Keyword where
  /-- The negation of a command. -/
  | negation
  /-- The beginning of a selection. -/
  | caseOf
  /-- The beginning of the body of a loop. -/
  | doing
  /-- The end of a loop. -/
  | done
  /-- The beginning of a second test. -/
  | elseIf
  /-- The beginning of the alternative. -/
  | otherwise
  /-- The end of a selection. -/
  | endCase
  /-- The end of a conditional. -/
  | endIf
  /-- The beginning of a loop over words. -/
  | forOf
  /-- The beginning of a conditional. -/
  | ifTest
  /-- What a loop goes through, or what is selected among. -/
  | among
  /-- The beginning of the consequence. -/
  | consequently
  /-- The beginning of a loop until a test succeeds. -/
  | untilTest
  /-- The beginning of a loop while a test succeeds. -/
  | whileTest
  /-- The beginning of a group. -/
  | openGroup
  /-- The end of a group. -/
  | closeGroup
  deriving DecidableEq, Repr

/-- The keywords with their spelling. -/
def Keyword.spellings : List (String × Keyword) :=
  [("!", .negation), ("case", .caseOf), ("do", .doing), ("done", .done), ("elif", .elseIf),
    ("else", .otherwise), ("esac", .endCase), ("fi", .endIf), ("for", .forOf), ("if", .ifTest),
    ("in", .among), ("then", .consequently), ("until", .untilTest), ("while", .whileTest),
    ("\x7b", .openGroup), ("\x7d", .closeGroup)]

/-- The spelling of a keyword. -/
def Keyword.spelling (keyword : Keyword) : String :=
  ((Keyword.spellings.find? fun entry => entry.2 = keyword).map (·.1)).getD ""

/-- A redirection before its word. -/
inductive Arrow where
  /-- To a file. -/
  | file (opening : Opening)
  /-- To where another descriptor leads. -/
  | duplicate
  /-- To a text in the script, from which tabs at the front of lines are removed if `isIndented`. -/
  | document (isIndented : Bool)
  deriving DecidableEq, Repr

/-- A piece of a script. -/
inductive Token where
  /-- A word. -/
  | word (word : Word)
  /-- A keyword. -/
  | keyword (keyword : Keyword)
  /-- A redirection of a descriptor. -/
  | arrow (descriptor : Nat) (arrow : Arrow)
  /-- The end of the script. -/
  | finish
  /-- The end of a line. -/
  | newline
  /-- The mark after a command. -/
  | semicolon
  /-- The mark after a command that is not waited for. -/
  | ampersand
  /-- The mark before a command that runs after a success. -/
  | both
  /-- The mark before a command that runs after a failure. -/
  | either
  /-- The mark between the parts of a pipeline. -/
  | bar
  /-- The opening parenthesis. -/
  | openParenthesis
  /-- The closing parenthesis. -/
  | closeParenthesis
  /-- The end of a branch of a selection. -/
  | endBranch

/-- The name of a piece in messages. -/
def Token.name : Token → String
  | .word _ => "word"
  | .keyword found => "\"" ++ found.spelling ++ "\""
  | .arrow .. => "redirection"
  | .finish => "end of file"
  | .newline => "newline"
  | .semicolon => "\";\""
  | .ampersand => "\"&\""
  | .both => "\"&&\""
  | .either => "\"||\""
  | .bar => "\"|\""
  | .openParenthesis => "\"(\""
  | .closeParenthesis => "\")\""
  | .endBranch => "\";;\""

/-- Whether a piece ends a list of commands. -/
def Token.endsList : Token → Bool
  | .finish | .endBranch | .closeParenthesis => true
  | .keyword found =>
    [.doing, .done, .elseIf, .otherwise, .endCase, .endIf, .consequently, .closeGroup].contains found
  | _ => false

/-- What is wrong with a script. -/
inductive SyntaxReason where
  /-- A piece stands where it may not; perhaps only one would be right. -/
  | unexpected (found : String) (wanted : Option String)
  /-- A quotation is not closed. -/
  | openQuote
  /-- A parameter in braces is not closed. -/
  | openBrace
  /-- An arithmetic expression is not closed. -/
  | openSum
  /-- A script between grave accents is not closed. -/
  | openAccent
  /-- What a loop sets is no variable. -/
  | badLoopVariable
  /-- A function may not have this name. -/
  | badFunctionName
  deriving DecidableEq, Repr

/-- The wording of what is wrong. -/
def SyntaxReason.message : SyntaxReason → String
  | .unexpected found wanted =>
    found ++ " unexpected" ++
      match wanted with
      | some wanted => " (expecting " ++ wanted ++ ")"
      | none => ""
  | .openQuote => "Unterminated quoted string"
  | .openBrace => "Missing '\x7d'"
  | .openSum => "Missing '))'"
  | .openAccent => "EOF in backquote substitution"
  | .badLoopVariable => "Bad for loop variable"
  | .badFunctionName => "Bad function name"

/-- What is wrong with a script, and on which line. -/
structure SyntaxFault where
  /-- The line. -/
  line : Nat
  /-- What is wrong. -/
  reason : SyntaxReason
  deriving DecidableEq, Repr

end DecompileServer.Program

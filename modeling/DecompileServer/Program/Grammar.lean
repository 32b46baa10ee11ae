import DecompileServer.Program.Lexing

/-!
# The grammar of scripts

A list holds commands up to a piece that ends it. Lists inside commands are read by a reader that is
a parameter here; `listOf` ties the knot, with a bound on how deep lists can lie. A whole script is
read line by line, so that what stands before a mistake is known when the mistake is met.
-/
namespace DecompileServer.Program

/-- The place of a list. -/
inductive ListPlace where
  /-- A line of the script. -/
  | line
  /-- Inside a command, where there has to be a command. -/
  | block
  /-- Inside a branch or between parentheses, where there may be none. -/
  | branch
  deriving DecidableEq

/-- The commands of the shell that end it when they fail. -/
def specialCommands : List String :=
  [".", ":", "break", "continue", "eval", "exec", "exit", "export", "readonly", "return", "set", "shift",
    "times", "trap", "unset"]

/-- The name and the value of an assignment, if a word is one. -/
def Word.assignment? : Word → Option (String × Word)
  | .plain text :: rest =>
    let name := text.toList.takeWhile isNameCharacter
    match text.toList.drop name.length with
    | '=' :: value =>
      if isName (String.ofList name) then
        some (String.ofList name,
          if value = [] then rest else .plain (String.ofList value) :: rest)
      else none
    | _ => none
  | _ => none

/-- The line after a text that a word names, and whether parameters stand for themselves in it. -/
def Word.marker (word : Word) : String × Bool :=
  word.foldl (fun (text, isLiteral) part =>
    match part with
    | .plain more => (text ++ more, isLiteral)
    | .quoted more => (text ++ more, true)
    | _ => (text, isLiteral)) ("", false)

/-- The parts of a simple command that have been read, last first. -/
structure Draft where
  /-- The assignments. -/
  assignments : List (String × Word) := []
  /-- The words. -/
  words : List Word := []
  /-- The redirections. -/
  redirections : List Redirection := []

namespace Parser

/-- Fails at a piece. -/
def unexpected {α : Type} (found : Token) (wanted : Option Token) : Parser α :=
  fail (.unexpected found.name (wanted.map Token.name))

/-- Passes over the closing parenthesis that has ended a list. -/
def closing : Parser Unit := do
  match (← get).pushed with
  | some .closeParenthesis => modify fun source => { source with pushed := none }
  | some token => unexpected token (some .closeParenthesis)
  | none => pure ()

section

variable (list : ListPlace → Parser (Option Script))

/-- Reads the parts of a word. -/
def parts (place : Place) : Parser (List Part) := do
  partsFrom (list .branch) closing (2 * (← limit)) place []

/-- Reads the next piece. -/
def piece (overLines withKeywords : Bool) : Parser Token :=
  next (parts list) overLines withKeywords

/-- Reads a list that holds a command. -/
def block : Parser Script := do
  pure ((← list .block).getD (.simple 0 [] [] []))

/-- Passes over the piece that has ended a list, which has to be a certain keyword. -/
def expect (wanted : Keyword) : Parser Unit := do
  match ← piece list false false with
  | .keyword found =>
    if found = wanted then pure () else unexpected (.keyword found) (some (.keyword wanted))
  | token => unexpected token (some (.keyword wanted))

/-- Reads the word of a redirection. -/
def redirection (descriptor : Nat) (arrow : Arrow) : Parser Redirection := do
  match ← piece list false false with
  | .word word =>
    match arrow with
    | .file opening => pure (.file descriptor opening word)
    | .duplicate => pure (.duplicate descriptor word)
    | .document isIndented =>
      let source ← get
      let number := source.documents
      let (marker, isLiteral) := word.marker
      let one : Awaited := { number, marker, isLiteral, isIndented }
      modify fun source =>
        { source with documents := number + 1, awaited := source.awaited ++ [one] }
      pure (.document descriptor ((source.known.lookup number).getD []))
  | token => unexpected token none

/-- Reads redirections after a command. -/
def redirections : Nat → List Redirection → Parser (List Redirection)
  | 0, known => pure known.reverse
  | limit + 1, known => do
    match ← piece list false true with
    | .arrow descriptor arrow => redirections limit ((← redirection list descriptor arrow) :: known)
    | token =>
      push token
      pure known.reverse

/-- Reads the rest of the definition of a function after the opening parenthesis. -/
def functionAfter (command : Bool → Bool → Parser Script) (name : Word) : Parser Script := do
  match ← piece list false false with
  | .closeParenthesis =>
    match name.plain? with
    | some text =>
      if isName text && !specialCommands.contains text then
        pure (.function text (← command true true))
      else fail .badFunctionName
    | none => fail .badFunctionName
  | token => unexpected token (some .closeParenthesis)

/-- Reads a simple command that begins on a line. -/
def simple (command : Bool → Bool → Parser Script) (line : Nat) : Nat → Draft → Parser Script
  | 0, draft =>
    pure (.simple line draft.assignments.reverse draft.words.reverse draft.redirections.reverse)
  | limit + 1, draft => do
    match ← piece list false false with
    | .word word =>
      match (if draft.words.isEmpty then word.assignment? else none) with
      | some assignment =>
        simple command line limit { draft with assignments := assignment :: draft.assignments }
      | none => simple command line limit { draft with words := word :: draft.words }
    | .arrow descriptor arrow =>
      let one ← redirection list descriptor arrow
      simple command line limit { draft with redirections := one :: draft.redirections }
    | token =>
      match token, draft with
      | .openParenthesis, { assignments := [], words := [name], redirections := [] } =>
        functionAfter list command name
      | _, _ =>
        push token
        pure (.simple line draft.assignments.reverse draft.words.reverse draft.redirections.reverse)

/-- Reads the consequence of a conditional and what follows it, up to its last keyword. -/
def conditional : Nat → Parser Script
  | 0 => fail .openBrace
  | limit + 1 => do
    let test ← block list
    expect list .consequently
    let consequence ← block list
    match ← piece list false false with
    | .keyword .elseIf => pure (.conditional test consequence (some (← conditional limit)))
    | .keyword .otherwise => pure (.conditional test consequence (some (← block list)))
    | token =>
      push token
      pure (.conditional test consequence none)

/-- Reads the words that a loop goes through. -/
def loopWords : Nat → List Word → Parser (List Word)
  | 0, words => pure words.reverse
  | limit + 1, words => do
    match ← piece list false false with
    | .word word => loopWords limit (word :: words)
    | .newline | .semicolon => pure words.reverse
    | token => unexpected token none

/-- Reads a loop over words, up to its last keyword. -/
def forEach (line : Nat) : Parser Script := do
  let name ← match ← piece list false false with
    | .word word =>
      match word.plain?.filter isName with
      | some name => pure name
      | none => fail .badLoopVariable
    | _ => fail .badLoopVariable
  let words ← match ← piece list true true with
    | .keyword .among => do pure (some (← loopWords list (← limit) []))
    | .semicolon => pure none
    | token => do
      push token
      pure none
  match ← piece list true true with
  | .keyword .doing => pure (.forEach line name words (← block list))
  | token => unexpected token (some (.keyword .doing))

/-- The word that a piece is as a pattern. -/
def patternOf : Token → Word
  | .word word => word
  | .keyword keyword => [.plain keyword.spelling]
  | _ => []

/-- Reads the patterns of a branch, the first of which has been read, up to the parenthesis. -/
def patterns : Nat → List Word → Parser (List Word)
  | 0, known => pure known.reverse
  | limit + 1, known => do
    match ← piece list false false with
    | .bar => patterns limit (patternOf (← piece list false false) :: known)
    | .closeParenthesis => pure known.reverse
    | token => unexpected token (some .closeParenthesis)

/-- Reads the branches of a selection with its last keyword. -/
def branches : Nat → List (List Word × Option Script) → Parser (List (List Word × Option Script))
  | 0, known => pure known.reverse
  | limit + 1, known => do
    match ← piece list true true with
    | .keyword .endCase => pure known.reverse
    | token =>
      let first ← match token with
        | .openParenthesis => piece list false false
        | token => pure token
      let patterns ← patterns list limit [patternOf first]
      let body ← list .branch
      let known := (patterns, body) :: known
      match ← piece list true true with
      | .keyword .endCase => pure known.reverse
      | .endBranch => branches limit known
      | token => unexpected token (some .endBranch)

/-- Reads a selection with its last keyword. -/
def select (line : Nat) : Parser Script := do
  match ← piece list false false with
  | .word subject =>
    match ← piece list true true with
    | .keyword .among => pure (.select line subject (← branches list (← limit) []))
    | token => unexpected token (some (.keyword .among))
  | token => unexpected token (some (.word []))

/-- Reads a command that is none of the simple ones, up to its redirections. -/
def compound (line : Nat) (token : Token) : Parser Script := do
  match token with
  | .keyword .ifTest =>
    let script ← conditional list (← limit)
    expect list .endIf
    pure script
  | .keyword .whileTest | .keyword .untilTest =>
    let test ← block list
    expect list .doing
    let body ← block list
    expect list .done
    pure (.loop (match token with
      | .keyword .untilTest => true
      | _ => false) test body)
  | .keyword .forOf =>
    let script ← forEach list line
    expect list .done
    pure script
  | .keyword .caseOf => select list line
  | .openParenthesis =>
    let body ← block list
    match ← piece list false false with
    | .closeParenthesis => pure (.subshell line body)
    | token => unexpected token (some .closeParenthesis)
  | .keyword .openGroup =>
    let body ← block list
    expect list .closeGroup
    pure body
  | token => unexpected token none

/-- Reads a command. The bound is on definitions of functions that are nested directly. -/
def command : Nat → Bool → Bool → Parser Script
  | 0, _, _ => fail .badFunctionName
  | depth + 1, overLines, withKeywords => do
    let line := (← get).line
    match ← piece list overLines withKeywords with
    | .word word =>
      push (.word word)
      simple list (command depth) (← get).line (← limit) {}
    | .arrow descriptor arrow =>
      push (.arrow descriptor arrow)
      simple list (command depth) (← get).line (← limit) {}
    | token =>
      let script ← compound list line token
      match ← redirections list (← limit) [] with
      | [] => pure script
      | further => pure (.redirected line script further)

/-- Reads the parts of a pipeline after the first, last first. -/
def pipelineAfter (command : Bool → Bool → Parser Script) : Nat → List Script → Parser (List Script)
  | 0, known => pure known.reverse
  | limit + 1, known => do
    match ← piece list false false with
    | .bar => pipelineAfter command limit ((← command true true) :: known)
    | token =>
      push token
      pure known.reverse

/-- Reads a pipeline. -/
def pipeline (overLines withKeywords : Bool) : Parser Script := do
  let command := command list (← limit)
  let token ← piece list overLines withKeywords
  let isNegated := match token with
    | .keyword .negation => true
    | _ => false
  let first ←
    if isNegated then command false true
    else do
      push token
      command false false
  let script ← match ← pipelineAfter list command (← limit) [first] with
    | [only] => pure only
    | parts => pure (Script.pipeline parts)
  pure (if isNegated then .negated script else script)

/-- Reads pipelines that are joined, after those before. -/
def joinedAfter : Nat → Script → Parser Script
  | 0, before => pure before
  | limit + 1, before => do
    match ← piece list false false with
    | .both => joinedAfter limit (.both before (← pipeline list true true))
    | .either => joinedAfter limit (.either before (← pipeline list true true))
    | token =>
      push token
      pure before

/-- Ends a list at the end of the script. -/
def finish (before : Option Script) : Parser (Option Script) := do
  readDocuments (parts list)
  push .finish
  pure before

/-- Reads the commands of a list after those before. -/
def listAfter (place : ListPlace) : Nat → Option Script → Parser (Option Script)
  | 0, before => pure before
  | bound + 1, before => do
    match ← piece list (place ≠ .line) true with
    | .newline =>
      readDocuments (parts list)
      pure before
    | .finish => finish list before
    | token =>
      push token
      if place ≠ .line && (before.isSome || place = .branch) && token.endsList then pure before
      else
        let one ← joinedAfter list (← limit) (← pipeline list false false)
        let mark ← piece list false false
        let one := match mark with
          | .ampersand => Script.background one
          | _ => one
        let known := match before with
          | none => one
          | some script => Script.sequence script one
        match mark with
        | .finish => finish list (some known)
        | .newline =>
          push .newline
          listAfter place bound (some known)
        | .ampersand | .semicolon => listAfter place bound (some known)
        | token =>
          if place = .line then unexpected token none
          else
            push token
            pure (some known)

end

/-- Reads a list whose lists lie at most so deep. -/
def listOf : Nat → ListPlace → Parser (Option Script)
  | 0, _ => pure none
  | depth + 1, place => do listAfter (listOf depth) place (← limit) none

/-- Reads a line of a script, with all that the line begins. -/
def line : Parser (Option Script) := do listOf (← limit) .line

end Parser

/-- The lines of a script up to a mistake. -/
structure Reading where
  /-- The commands, in order. -/
  commands : List Script
  /-- The mistake, if there is one. -/
  fault : Option SyntaxFault

/-- Reads a line of a script; it is read twice if texts begin on it. -/
def Source.line? (source : Source) : Except SyntaxFault (Option Script × Source) := do
  let fresh := { source with awaited := [], found := [], known := [], documents := 0 }
  let (script, after) ← Parser.line.run fresh
  if after.found.isEmpty then pure (script, after)
  else Parser.line.run { fresh with known := after.found }

/-- Reads the lines of a script. Each takes a character, but for the last. -/
def Source.readAll : Nat → Source → Reading
  | 0, _ => ⟨[], none⟩
  | limit + 1, source =>
    match source.line? with
    | .error fault => ⟨[], some fault⟩
    | .ok (script, after) =>
      let isLast := match after.pushed with
        | some .finish => true
        | _ => false
      if isLast then ⟨script.toList, none⟩
      else
        let further := Source.readAll limit after
        { further with commands := script.toList ++ further.commands }

/-- Reads a script. -/
def Script.read (text : String) : Reading :=
  let characters := text.toList
  Source.readAll (characters.length + 2) { rest := characters }

end DecompileServer.Program

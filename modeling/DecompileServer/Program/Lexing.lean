import DecompileServer.Program.Token

/-!
# Reading the pieces of scripts

A source is what is left of a script. Words are read with all that they hold, so reading them needs a
reader for the scripts whose output is put into words; it is a parameter here. The texts in a script
that redirections name begin on the next line: a reading finds them, and a second reading, which
knows them, puts them where they belong.
-/
namespace DecompileServer.Program

/-- A text that begins on the next line. -/
structure Awaited where
  /-- The number of the text. -/
  number : Nat
  /-- The line after it. -/
  marker : String
  /-- Whether parameters stand for themselves in it. -/
  isLiteral : Bool
  /-- Whether tabs at the front of its lines are removed. -/
  isIndented : Bool

/-- What is left of a script. -/
structure Source where
  /-- The characters. -/
  rest : List Char
  /-- The number of the line. -/
  line : Nat := 1
  /-- A piece that has been read and put back. -/
  pushed : Option Token := none
  /-- The texts that begin on the next line. -/
  awaited : List Awaited := []
  /-- The texts that have been found, by their numbers. -/
  found : List (Nat × List Part) := []
  /-- The texts that are known from a reading before. -/
  known : List (Nat × List Part) := []
  /-- The number of texts that have been named. -/
  documents : Nat := 0

/-- A reader of a part of a script. -/
abbrev Parser := StateT Source (Except SyntaxFault)

namespace Parser

/-- Fails on the line that has been reached. -/
def fail {α : Type} (reason : SyntaxReason) : Parser α := do
  throw ⟨(← get).line, reason⟩

/-- The characters after joined lines, with the number of the line. A backslash at the end of a line
joins it with the next one. -/
def joined : List Char → Nat → List Char × Nat
  | '\\' :: '\n' :: rest, line => joined rest (line + 1)
  | rest, line => (rest, line)

/-- The next character, lines being joined. -/
def look : Parser (Option Char) :=
  modifyGet fun source =>
    let (rest, line) := joined source.rest source.line
    (rest.head?, { source with rest, line })

/-- Passes over a character. -/
def skip : Parser Unit :=
  modify fun source =>
    { source with
      rest := source.rest.drop 1
      line := if source.rest.head? = some '\n' then source.line + 1 else source.line }

/-- The next character, whatever it is, which is passed over. -/
def take : Parser (Option Char) := do
  let character := (← get).rest.head?
  skip
  pure character

/-- Passes over a character if it is the given one. -/
def skipIf (character : Char) : Parser Bool := do
  if (← look) = some character then
    skip
    pure true
  else pure false

/-- Takes characters as long as they pass a test. -/
def takeWhile (test : Char → Bool) : Nat → List Char → Parser (List Char)
  | 0, taken => pure taken.reverse
  | limit + 1, taken => do
    match ← look with
    | some character =>
      if test character then
        skip
        takeWhile test limit (character :: taken)
      else pure taken.reverse
    | none => pure taken.reverse

/-- More than the number of characters that are left. -/
def limit : Parser Nat := do
  pure ((← get).rest.length + 1)

/-- Puts a piece back. -/
def push (token : Token) : Parser Unit :=
  modify fun source => { source with pushed := some token }

end Parser

/-- What ends the parts that are being read. -/
inductive Ending where
  /-- The end of a word. -/
  | word
  /-- A double quote. -/
  | quote
  /-- A closing brace. -/
  | brace
  /-- Two closing parentheses, with so many parentheses open. -/
  | sum (depth : Nat)
  /-- The end of a text. -/
  | text
  deriving DecidableEq

/-- Where parts are being read. -/
structure Place where
  /-- Whether they are quoted. -/
  isQuoted : Bool
  /-- What ends them. -/
  ending : Ending

/-- Whether a backslash makes a character stand for itself. -/
def Place.escapes (place : Place) (character : Char) : Bool :=
  !place.isQuoted || ['\\', '\x60', '$'].contains character ||
    (character = '"' && place.ending ≠ .text) || (character = '\x7d' && place.ending = .brace)

/-- Adds a character to parts that are given last first. -/
def addCharacter (isQuoted : Bool) (character : Char) : List Part → List Part
  | .quoted text :: rest =>
    if isQuoted then .quoted (text.push character) :: rest
    else .plain character.toString :: .quoted text :: rest
  | .plain text :: rest =>
    if isQuoted then .quoted character.toString :: .plain text :: rest
    else .plain (text.push character) :: rest
  | parts =>
    (if isQuoted then .quoted character.toString else .plain character.toString) :: parts

/-- Whether a character ends a word. -/
def endsWord (character : Char) : Bool :=
  [' ', '\t', '\n', ';', '|', '&', '>', '<', '(', ')'].contains character

/-- Whether a character is a parameter. -/
def isSpecial (character : Char) : Bool :=
  character.isDigit || ['@', '*', '#', '?', '-', '$', '!'].contains character

namespace Parser

/-- Takes the rest of a quotation between single quotes. -/
def singleQuoted : Nat → List Char → Parser String
  | 0, _ => fail .openQuote
  | limit + 1, taken => do
    match ← take with
    | none => fail .openQuote
    | some '\x27' => pure (String.ofList taken.reverse)
    | some character => singleQuoted limit (character :: taken)

/-- Takes the rest of a script between grave accents. -/
def betweenAccents (isQuoted : Bool) : Nat → List Char → Parser (List Char)
  | 0, _ => fail .openAccent
  | limit + 1, taken => do
    match ← take with
    | none => fail .openAccent
    | some '\x60' => pure taken.reverse
    | some '\\' =>
      match ← take with
      | none => fail .openAccent
      | some '\n' => betweenAccents isQuoted limit taken
      | some character =>
        if ['\\', '\x60', '$'].contains character || (isQuoted && character = '"') then
          betweenAccents isQuoted limit (character :: taken)
        else betweenAccents isQuoted limit (character :: '\\' :: taken)
    | some character => betweenAccents isQuoted limit (character :: taken)

/-- Reads a script of its own with the texts that it names. -/
def nested {α : Type} (reader : Parser α) : Parser α := do
  let awaited := (← get).awaited
  modify fun source => { source with awaited := [] }
  let result ← reader
  modify fun source => { source with awaited := source.awaited ++ awaited }
  pure result

/-- Reads characters by themselves. -/
def within {α : Type} (characters : List Char) (line : Nat) (reader : Parser α) : Parser α := do
  let outer ← get
  modify fun source => { source with rest := characters, line, pushed := none, awaited := [] }
  let result ← reader
  modify fun source =>
    { source with
      rest := outer.rest, line := outer.line, pushed := outer.pushed, awaited := outer.awaited }
  pure result

/-- Takes the name of a parameter in braces; `none` if there is none. The flag says whether the
length of its value is meant. -/
def bracedName : Parser (Option (String × Bool)) := do
  let size ← limit
  let name : Parser (Option String) := do
    match ← look with
    | none => pure none
    | some first =>
      if isNameStart first then do
        pure (some (String.ofList (← takeWhile isNameCharacter size [])))
      else if first.isDigit then do
        pure (some (String.ofList (← takeWhile Char.isDigit size [])))
      else pure none
  match ← name with
  | some name => pure (some (name, false))
  | none =>
    match ← look with
    | none | some '\x7d' => pure none
    | some '#' =>
      skip
      match ← name with
      | some name => pure (some (name, true))
      | none =>
        let before ← get
        let second ← look
        skip
        let third ← look
        match second with
        | some special =>
          if special ≠ '\x7d' && third = some '\x7d' then
            pure (if isSpecial special then some (special.toString, true) else none)
          else
            set before
            pure (some ("#", false))
        | none =>
          set before
          pure (some ("#", false))
    | some first =>
      skip
      pure (if isSpecial first then some (first.toString, false) else none)

/-- Takes the rest of a parameter in braces after its name. -/
def bracedUse (again : Place → Parser (List Part)) (isQuoted isLength : Bool) : Parser (Option Use) := do
  if isLength then
    let _ ← again ⟨isQuoted, .brace⟩
    pure (some .length)
  else
    let isStrict ← skipIf ':'
    let fallback (kind : Fallback) : Parser (Option Use) := do
      skip
      let word ← again ⟨isQuoted, .brace⟩
      pure (some (.fallback kind isStrict word))
    let trimmed (mark : Char) : Parser (Option Use) := do
      skip
      let isLongest ← skipIf mark
      let pattern ← again ⟨false, .brace⟩
      pure (some (.trimmed (mark = '#') isLongest pattern))
    let malformed : Parser (Option Use) := do
      -- A line that ends here is not counted.
      modify fun source => { source with rest := source.rest.drop 1 }
      let _ ← again ⟨isQuoted, .brace⟩
      pure none
    match (← look), isStrict with
    | some '\x7d', _ =>
      skip
      pure (some .value)
    | some '-', _ => fallback .substitute
    | some '=', _ => fallback .assign
    | some '?', _ => fallback .complain
    | some '+', _ => fallback .replace
    | some '#', false => trimmed '#'
    | some '%', false => trimmed '%'
    | _, _ => malformed

/-- Reads what follows a dollar sign. -/
def dollar (commands : Parser (Option Script)) (closing : Parser Unit)
    (again : Place → Parser (List Part)) (isQuoted : Bool) : Parser Part := do
  match ← look with
  | some '(' =>
    skip
    if ← skipIf '(' then
      let expression ← again ⟨true, .sum 0⟩
      pure (.sum expression isQuoted)
    else
      let script ← nested do
        let script ← commands
        closing
        pure script
      pure (.output script isQuoted)
  | some '\x7b' =>
    skip
    match ← bracedName with
    | none =>
      let _ ← again ⟨isQuoted, .brace⟩
      pure .malformed
    | some (name, isLength) =>
      match ← bracedUse again isQuoted isLength with
      | some use => pure (.parameter name use isQuoted)
      | none => pure .malformed
  | some first =>
    if isNameStart first then
      let name ← takeWhile isNameCharacter (← limit) []
      pure (.parameter (String.ofList name) .value isQuoted)
    else if isSpecial first then
      skip
      pure (.parameter first.toString .value isQuoted)
    else pure (if isQuoted then .quoted "$" else .plain "$")
  | none => pure (if isQuoted then .quoted "$" else .plain "$")

/-- Adds a part to parts that are given last first. -/
def addPart (part : Part) (done : List Part) : List Part :=
  match part with
  | .plain text => text.toList.foldl (fun done character => addCharacter false character done) done
  | .quoted "" => .quoted "" :: done
  | .quoted text => text.toList.foldl (fun done character => addCharacter true character done) done
  | part => part :: done

/-- Reads parts up to what ends them, after those given last first. Each takes a character. -/
def partsFrom (commands : Parser (Option Script)) (closing : Parser Unit) :
    Nat → Place → List Part → Parser (List Part)
  | 0, _, done => pure done.reverse
  | limit + 1, place, done => do
    let again (place : Place) : Parser (List Part) := partsFrom commands closing limit place []
    let goOn (done : List Part) : Parser (List Part) := partsFrom commands closing limit place done
    match ← look with
    | none =>
      match place.ending with
      | .word | .text => pure done.reverse
      | .quote => fail .openQuote
      | .brace => fail (if place.isQuoted then .openQuote else .openBrace)
      | .sum _ => fail .openSum
    | some '\\' =>
      skip
      match (← get).rest.head? with
      | none => pure (addCharacter true '\\' done).reverse
      | some character =>
        skip
        if place.escapes character then goOn (addCharacter true character done)
        else goOn (addCharacter true character (addCharacter true '\\' done))
    | some '$' =>
      skip
      goOn (addPart (← dollar commands closing again place.isQuoted) done)
    | some '\x60' =>
      skip
      let script ← within (← betweenAccents place.isQuoted limit []) 1 commands
      goOn (.output script place.isQuoted :: done)
    | some '"' =>
      match place.ending, place.isQuoted with
      | .quote, _ =>
        skip
        pure (if done.isEmpty then [.quoted ""] else done.reverse)
      | .text, _ | .sum _, _ =>
        skip
        goOn (addCharacter true '"' done)
      | _, _ =>
        skip
        goOn ((← again ⟨true, .quote⟩).foldl (fun done part => addPart part done) done)
    | some '\x27' =>
      skip
      if place.isQuoted then goOn (addCharacter true '\x27' done)
      else goOn (addPart (.quoted (← singleQuoted limit [])) done)
    | some character =>
      match place.ending, character with
      | .brace, '\x7d' =>
        skip
        pure done.reverse
      | .sum depth, '(' =>
        skip
        partsFrom commands closing limit { place with ending := .sum (depth + 1) }
          (addCharacter true '(' done)
      | .sum 0, ')' =>
        skip
        if ← skipIf ')' then pure done.reverse else goOn (addCharacter true ')' done)
      | .sum (depth + 1), ')' =>
        skip
        partsFrom commands closing limit { place with ending := .sum depth }
          (addCharacter true ')' done)
      | .word, _ =>
        if endsWord character then pure done.reverse
        else
          skip
          goOn (addCharacter false character done)
      | _, _ =>
        skip
        goOn (addCharacter place.isQuoted character done)

/-- Passes over white space between pieces, joined lines and comments. -/
def skipBlanks : Nat → Parser Unit
  | 0 => pure ()
  | limit + 1 => do
    match ← look with
    | some ' ' | some '\t' =>
      skip
      skipBlanks limit
    | some '#' =>
      modify fun source => { source with rest := source.rest.dropWhile (· ≠ '\n') }
      skipBlanks limit
    | _ => pure ()

/-- Reads the rest of a redirection after its first angle bracket. -/
def arrowAfter (bracket : Char) : Parser Arrow := do
  if bracket = '>' then
    if ← skipIf '>' then pure (.file .append)
    else if ← skipIf '|' then pure (.file .overwrite)
    else if ← skipIf '&' then pure .duplicate
    else pure (.file .write)
  else if ← skipIf '<' then pure (.document (← skipIf '-'))
  else if ← skipIf '&' then pure .duplicate
  else if ← skipIf '>' then pure (.file .update)
  else pure (.file .read)

/-- Reads a piece that begins with a redirection of the given descriptor. -/
def arrowToken (descriptor : Option Nat) (bracket : Char) : Parser Token := do
  skip
  let arrow ← arrowAfter bracket
  pure (.arrow (descriptor.getD (if bracket = '<' then 0 else 1)) arrow)

/-- Reads a word, or a redirection with a number before it. -/
def wordToken (parts : Place → Parser (List Part)) : Parser Token := do
  let word ← parts ⟨false, .word⟩
  match word with
  | [.plain text] =>
    match text.toList, ← look with
    | [digit], some bracket =>
      if digit.isDigit && (bracket = '<' || bracket = '>') then
        arrowToken (some (digit.toNat - 48)) bracket
      else pure (.word word)
    | _, _ => pure (.word word)
  | _ => pure (.word word)

/-- Reads a piece of a script. -/
def lex (parts : Place → Parser (List Part)) : Parser Token := do
  skipBlanks (← limit)
  match ← look with
  | none => pure .finish
  | some '\n' =>
    skip
    pure .newline
  | some '&' =>
    skip
    pure (if ← skipIf '&' then .both else .ampersand)
  | some '|' =>
    skip
    pure (if ← skipIf '|' then .either else .bar)
  | some ';' =>
    skip
    pure (if ← skipIf ';' then .endBranch else .semicolon)
  | some '(' =>
    skip
    pure .openParenthesis
  | some ')' =>
    skip
    pure .closeParenthesis
  | some '<' => arrowToken none '<'
  | some '>' => arrowToken none '>'
  | some _ => wordToken parts

/-- The lines of a text up to its marker, and what follows. Where parameters do not stand for
themselves, a line that ends in a backslash goes on in the next. -/
def documentLines (awaited : Awaited) : Nat → Bool → List (List Char) → List Char →
    List (List Char) × List Char
  | 0, _, lines, rest => (lines.reverse, rest)
  | limit + 1, isJoined, lines, rest =>
    if rest = [] then (lines.reverse, [])
    else
      let line := rest.takeWhile (· ≠ '\n')
      let further := rest.drop line.length
      let line := if awaited.isIndented && !isJoined then line.dropWhile (· == '\t') else line
      if !isJoined && line = awaited.marker.toList then (lines.reverse, further.drop 1)
      else
        let backslashes := (line.reverse.takeWhile (· == '\\')).length
        let joins := !awaited.isLiteral && backslashes % 2 == 1
        documentLines awaited limit joins ((line ++ further.take 1) :: lines) (further.drop 1)

/-- Reads the texts that begin on this line. -/
def readDocuments (parts : Place → Parser (List Part)) : Parser Unit := do
  let awaited := (← get).awaited
  modify fun source => { source with awaited := [] }
  for one in awaited do
    let source ← get
    let (lines, rest) := documentLines one (source.rest.length + 1) false [] source.rest
    let text := lines.flatten
    let body ←
      if one.isLiteral then pure [.quoted (String.ofList text)]
      else within text source.line (parts ⟨true, .text⟩)
    let passed := (source.rest.take (source.rest.length - rest.length)).filter (· == '\n')
    modify fun source =>
      { source with
        rest
        line := source.line + passed.length
        found := source.found ++ [(one.number, body)] }

/-- The keyword that a piece is, if it is one. -/
def keyword? : Token → Option Keyword
  | .word word => word.plain?.bind fun text => Keyword.spellings.lookup text
  | _ => none

/-- Reads a piece that is not the end of a line. -/
def lexOverLines (parts : Place → Parser (List Part)) : Nat → Token → Parser Token
  | limit + 1, .newline => do
    readDocuments parts
    lexOverLines parts limit (← lex parts)
  | _, token => pure token

/-- Reads the next piece. Ends of lines are passed over if `overLines`; words are keywords if
`withKeywords`. -/
def next (parts : Place → Parser (List Part)) (overLines withKeywords : Bool) : Parser Token := do
  let size ← limit
  let source ← get
  let token ← match source.pushed with
    | some token =>
      set { source with pushed := none }
      pure token
    | none => lex parts
  let token ← if overLines then lexOverLines parts size token else pure token
  if withKeywords then
    match keyword? token with
    | some keyword => pure (.keyword keyword)
    | none => pure token
  else pure token

end Parser

end DecompileServer.Program

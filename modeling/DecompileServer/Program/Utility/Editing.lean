import DecompileServer.Program.Call
import DecompileServer.Program.Expression
import DecompileServer.Program.Printed

/-!
# Editing by a script

Commands are run on each line in turn, which is the space that they work on; a second space is held
beside it. A command may be limited to lines by their numbers or by what they hold.
-/
namespace DecompileServer.Program.Editing

/-! ### Scripts -/

/-- An expression as it is searched for; without one the last one that was searched for counts. -/
structure Search where
  /-- The expression. -/
  expression : Option Expression
  /-- Whether the case of letters does not matter. -/
  ignoresCase : Bool := false

/-- What names lines. -/
inductive Address where
  /-- A line by its number. -/
  | number (number : Nat)
  /-- Every so many lines from one on. -/
  | step (first step : Nat)
  /-- The last line. -/
  | last
  /-- Lines by what they hold. -/
  | search (search : Search)

/-- What ends a range of lines. -/
inductive Stop where
  /-- A line with an address. -/
  | address (address : Address)
  /-- So many lines on. -/
  | after (count : Nat)
  /-- The next line whose number is a multiple. -/
  | multiple (number : Nat)

/-- A part of what a match is replaced by. -/
inductive Piece where
  /-- A character. -/
  | character (character : Char)
  /-- What a group stands for; the group 0 is the whole match. -/
  | group (number : Nat)
  /-- A change of the case of letters. -/
  | letters (mode : Char)

/-- A replacement of matches. -/
structure Substitution where
  /-- What is searched for. -/
  search : Search
  /-- What takes its place. -/
  pieces : List Piece
  /-- The number of the first match that is replaced. -/
  first : Nat := 1
  /-- Whether all matches after it are replaced. -/
  isGlobal : Bool := false
  /-- Whether the line is shown if there was a match. -/
  shows : Bool := false
  /-- The file that the line is written to if there was a match. -/
  file : Option String := none

/-- What a command does. -/
inductive Act where
  /-- Begins a group. -/
  | openGroup
  /-- Ends a group. -/
  | closeGroup
  /-- Marks a place. -/
  | label (name : String)
  /-- Goes on at a mark, or at the end: always, after a replacement or without one. -/
  | jump (letter : Char) (name : String)
  /-- Replaces matches. -/
  | substitute (substitution : Substitution)
  /-- Replaces characters. -/
  | translate (table : List (Char × Char))
  /-- Shows a text after the line, before it or in its place. -/
  | text (letter : Char) (text : String)
  /-- Does what a letter stands for. -/
  | plain (letter : Char)
  /-- Ends with a status, the line being shown or not. -/
  | quit (shows : Bool) (status : Nat)
  /-- Shows a file after the line. -/
  | readFile (name : String)
  /-- Writes the line to a file. -/
  | writeFile (name : String)

/-- A command with its limits. -/
structure Command where
  /-- Where it begins to be run. -/
  first : Option Address := none
  /-- Where it ends to be run, if that is another line. -/
  stop : Option Stop := none
  /-- Whether it is run on the other lines. -/
  isNegated : Bool := false
  /-- What it does. -/
  act : Act

/-! ### Reading -/

/-- A place in a script: what is left, and the number of characters before. -/
abbrev Place := List Char × Nat

/-- A reader of scripts; a complaint has a place. -/
abbrev Reader := StateT Place (Except (Nat × String))

/-- Fails at the place that has been reached. -/
def fail {α : Type} (text : String) : Reader α := do
  throw ((← get).2, text)

/-- The next character. -/
def look : Reader (Option Char) := do
  pure (← get).1.head?

/-- Takes the next character. -/
def take : Reader (Option Char) :=
  modifyGet fun (rest, place) =>
    (rest.head?, (rest.drop 1, if rest.isEmpty then place else place + 1))

/-- Takes characters as long as they pass a test. -/
def takeWhile (test : Char → Bool) : Reader (List Char) :=
  modifyGet fun (rest, place) =>
    let taken := rest.takeWhile test
    (taken, (rest.drop taken.length, place + taken.length))

/-- Whether a character is white space within a line. -/
def isBlank (character : Char) : Bool := Arithmetic.isSpace character && character ≠ '\n'

/-- Takes a number. -/
def takeNumber : Reader Nat := do
  pure (Arithmetic.digitsIn 10 (← takeWhile Char.isDigit)).1

/-- Takes a character of the same line, or complains. -/
def takeInLine (complaint : String) : Reader Char := do
  match ← look with
  | none | some '\n' => fail complaint
  | some character => do
    let _ ← take
    pure character

/-- Takes the character behind a backslash, or complains. -/
def takeAny (complaint : String) : Reader Char := do
  match ← take with
  | none => fail complaint
  | some character => pure character

/-- Takes characters up to a mark. A backslash before the mark is dropped unless the mark means something
by itself. -/
def upTo (mark : Char) (complaint : String) : Nat → List Char → Reader (List Char)
  | 0, _ => fail complaint
  | limit + 1, taken => do
    match ← takeInLine complaint with
    | '\\' =>
      let next ← takeAny complaint
      if next = mark ∧ mark ≠ '&' then upTo mark complaint limit (mark :: taken)
      else upTo mark complaint limit (next :: '\\' :: taken)
    | character =>
      if character = mark then pure taken.reverse
      else upTo mark complaint limit (character :: taken)

/-- Where a place in an expression lies. -/
inductive Region where
  /-- Outside of lists of characters. -/
  | outside
  /-- At the start of a list, where a closing bracket is one of its characters. -/
  | start
  /-- In a list. -/
  | inside
  /-- In a name within a list, between brackets with a mark each. -/
  | named (mark : Char)
  deriving DecidableEq

/-- Takes an expression up to a mark that stands outside of lists of characters. There a backslash before
the mark is dropped. -/
def expressionUpTo (mark : Char) (complaint : String) : Nat → Region → List Char → Reader (List Char)
  | 0, _, _ => fail complaint
  | limit + 1, region, taken => do
    let character ← takeInLine complaint
    let next ← look
    let isNegation := region = .start ∧ character = '^' ∧ taken.head? = some '['
    match region, character, next with
    | .outside, '\\', _ =>
      let next ← takeAny complaint
      let written := if next = mark then [mark] else if next = 'n' ∨ next = '\n' then ['\n'] else [next, '\\']
      expressionUpTo mark complaint limit .outside (written ++ taken)
    | .outside, character, _ =>
      if character = mark then pure taken.reverse
      else
        expressionUpTo mark complaint limit (if character = '[' then .start else .outside)
          (character :: taken)
    | .named closing, character, some ']' =>
      if character = closing then
        let _ ← take
        expressionUpTo mark complaint limit .inside (']' :: character :: taken)
      else expressionUpTo mark complaint limit region (character :: taken)
    | .named _, character, _ => expressionUpTo mark complaint limit region (character :: taken)
    | .inside, ']', _ => expressionUpTo mark complaint limit .outside (']' :: taken)
    | _, '\\', some 'n' =>
      let _ ← take
      expressionUpTo mark complaint limit .inside ('\n' :: taken)
    | _, '[', some opening =>
      if [':', '.', '='].contains opening then
        let _ ← take
        expressionUpTo mark complaint limit (.named opening) (opening :: '[' :: taken)
      else expressionUpTo mark complaint limit .inside ('[' :: taken)
    | _, character, _ =>
      expressionUpTo mark complaint limit (if isNegation then .start else .inside) (character :: taken)

/-- More than the number of characters that are left. -/
def limit : Reader Nat := do
  pure ((← get).1.length + 1)

/-- The expression that a text writes; the empty text writes none. -/
def searchOf (isExtended : Bool) (text : List Char) : Reader Search := do
  if text = [] then pure ⟨none, false⟩
  else
    match Expression.wrong? isExtended (String.ofList text) with
    | some wrong => fail wrong
    | none => pure ⟨some (Expression.read isExtended (String.ofList text)), false⟩

/-- Takes an address, if there is one. -/
def takeAddress (isExtended : Bool) : Reader (Option Address) := do
  let complaint := "unterminated address regex"
  let expression (mark : Char) : Reader (Option Address) := do
    let search ← searchOf isExtended (← expressionUpTo mark complaint (← limit) .outside [])
    let letters ← takeWhile fun letter => letter == 'I' || letter == 'M'
    pure (some (.search { search with ignoresCase := letters.contains 'I' }))
  match ← look with
  | some '/' => do
    let _ ← take
    expression '/'
  | some '\\' => do
    let _ ← take
    match ← take with
    | some mark => expression mark
    | none => fail complaint
  | some '$' => do
    let _ ← take
    pure (some .last)
  | some digit =>
    if digit.isDigit then
      let number ← takeNumber
      let _ ← takeWhile isBlank
      if (← look) = some '~' then
        let _ ← take
        let _ ← takeWhile isBlank
        pure (some (.step number (← takeNumber)))
      else pure (some (.number number))
    else pure none
  | none => pure none

/-- Takes what ends a range. -/
def takeStop (isExtended : Bool) : Reader Stop := do
  let _ ← takeWhile isBlank
  match ← look with
  | some '+' => do
    let _ ← take
    pure (.after (← takeNumber))
  | some '~' => do
    let _ ← take
    pure (.multiple (← takeNumber))
  | _ =>
    match ← takeAddress isExtended with
    | some address => pure (.address address)
    | none => do
      let _ ← take
      fail "unexpected \x60,'"

/-- The pieces of a replacement. -/
def piecesOf : List Char → List Piece
  | [] => []
  | '\\' :: letter :: rest =>
    let piece : Piece :=
      if letter.isDigit then .group (letter.toNat - 48)
      else if ['L', 'U', 'l', 'u', 'E'].contains letter then .letters letter
      else
        match [('n', '\n'), ('t', '\t'), ('r', '\r'), ('f', '\x0c'), ('v', '\x0b'), ('a', '\x07')].lookup
            letter with
        | some character => .character character
        | none => .character letter
    piece :: piecesOf rest
  | '&' :: rest => .group 0 :: piecesOf rest
  | character :: rest => .character character :: piecesOf rest

/-- The number of groups of an expression. -/
def groupsOf : Expression → Nat
  | .group _ body => groupsOf body + 1
  | .repeated body _ _ => groupsOf body
  | .sequence first second | .alternative first second => groupsOf first + groupsOf second
  | _ => 0

/-- Takes the rest of a line as the name of a file. -/
def takeFile : Reader String := do
  let _ ← takeWhile isBlank
  let name ← takeWhile (· ≠ '\n')
  if name = [] then fail "missing filename in r/R/w/W commands" else pure (String.ofList name)

/-- Takes the letters after a replacement. -/
def takeFlags : Nat → Substitution → Reader Substitution
  | 0, substitution => pure substitution
  | limit + 1, substitution => do
    match ← look with
    | some 'g' => do
      let _ ← take
      if substitution.isGlobal then fail "multiple \x60g' options to \x60s' command"
      else takeFlags limit { substitution with isGlobal := true }
    | some 'p' => do
      let _ ← take
      if substitution.shows then fail "multiple \x60p' options to \x60s' command"
      else takeFlags limit { substitution with shows := true }
    | some 'i' | some 'I' => do
      let _ ← take
      takeFlags limit
        { substitution with search := { substitution.search with ignoresCase := true } }
    | some 'm' | some 'M' | some 'e' => do
      let _ ← take
      takeFlags limit substitution
    | some 'w' => do
      let _ ← take
      pure { substitution with file := some (← takeFile) }
    | some letter =>
      if letter.isDigit then
        let number ← takeNumber
        if number = 0 then fail "number option to \x60s' command may not be zero"
        else takeFlags limit { substitution with first := number }
      else if isBlank letter ∨ ['\n', ';', '\x7d', '#'].contains letter then pure substitution
      else do
        let _ ← take
        fail "unknown option to \x60s'"
    | none => pure substitution

/-- Takes the rest of a replacement. -/
def takeSubstitution (isExtended : Bool) : Reader Act := do
  let complaint := "unterminated \x60s' command"
  match ← take with
  | none => fail complaint
  | some mark =>
    let text ← expressionUpTo mark complaint (← limit) .outside []
    let replacement ← upTo mark complaint (← limit) []
    let substitution ← takeFlags (← limit) { search := ⟨none, false⟩, pieces := piecesOf replacement }
    let search ← searchOf isExtended text
    let groups := ((search.expression.map groupsOf).getD 9)
    let wrong := substitution.pieces.filterMap fun piece =>
      match piece with
      | .group number => if groups < number then some number else none
      | _ => none
    match wrong with
    | number :: _ =>
      fail ("invalid reference \\" ++ toString number ++ " on \x60s' command's RHS")
    | [] =>
      pure (.substitute
        { substitution with search := ⟨search.expression, substitution.search.ignoresCase⟩ })

/-- A text whose backslashes are undone. -/
def withoutBackslashes : List Char → List Char
  | '\\' :: '\\' :: rest => '\\' :: withoutBackslashes rest
  | '\\' :: 'n' :: rest => '\n' :: withoutBackslashes rest
  | '\\' :: rest => withoutBackslashes rest
  | character :: rest => character :: withoutBackslashes rest
  | [] => []

/-- Takes the rest of a replacement of characters. -/
def takeTranslation : Reader Act := do
  let complaint := "unterminated \x60y' command"
  match ← take with
  | none => fail complaint
  | some mark =>
    let source ← upTo mark complaint (← limit) []
    let written ← upTo mark complaint (← limit) []
    let sources := withoutBackslashes source
    let targets := withoutBackslashes written
    if sources.length = targets.length then pure (.translate (sources.zip targets))
    else fail "strings for \x60y' command are different lengths"

/-- Takes a text up to the end of a line that no backslash continues. -/
def takeText : Nat → List Char → Reader (List Char)
  | 0, taken => pure taken.reverse
  | limit + 1, taken => do
    match ← take with
    | none | some '\n' => pure taken.reverse
    | some '\\' =>
      match ← take with
      | some next => takeText limit (next :: taken)
      | none => pure taken.reverse
    | some character => takeText limit (character :: taken)

/-- Takes the text of a command that shows one. -/
def takeInsertion (letter : Char) : Reader Act := do
  let _ ← takeWhile isBlank
  match ← look with
  | none => fail "expected \\ after \x60a', \x60c' or \x60i'"
  | some '\\' => do
    let before ← get
    let _ ← take
    let _ ← takeWhile isBlank
    match ← look with
    | some '\n' => do
      let _ ← take
    | none => pure ()
    | some _ => do
      -- The backslash keeps the blanks after it.
      set before
      let _ ← take
    if (← look).isNone then pure (.text letter "")
    else pure (.text letter (String.ofList (← takeText (← limit) []) ++ "\n"))
  | some _ => pure (.text letter (String.ofList (← takeText (← limit) []) ++ "\n"))

/-- Passes over what ends a command. -/
def takeEnd : Reader Unit := do
  let _ ← takeWhile isBlank
  match ← look with
  | none | some '\x7d' | some '#' => pure ()
  | some '\n' | some ';' => do
    let _ ← take
  | some _ => do
    let _ ← take
    fail "extra characters after command"

/-- Takes the name of a mark. -/
def takeLabel : Reader String := do
  let _ ← takeWhile isBlank
  let name ← takeWhile fun character => !(Arithmetic.isSpace character || character == ';')
  pure (String.ofList name)

/-- Takes what a command does. -/
def takeAct (isExtended hasAddress : Bool) (depth : Nat) : Reader Act := do
  match ← take with
  | none => fail "missing command"
  | some letter =>
    match letter with
    | '\x7b' => pure .openGroup
    | '\x7d' =>
      if depth = 0 then fail "unexpected \x60\x7d'"
      else if hasAddress then fail "\x7d doesn't want any addresses"
      else do
        takeEnd
        pure .closeGroup
    | 's' => do
      let act ← takeSubstitution isExtended
      takeEnd
      pure act
    | 'y' => do
      let act ← takeTranslation
      takeEnd
      pure act
    | 'a' | 'i' | 'c' => takeInsertion letter
    | ':' => do
      if hasAddress then fail ": doesn't want any addresses"
      else
        let name ← takeLabel
        if name = "" then fail "\":\" lacks a label"
        else
          let _ ← takeWhile fun character => Arithmetic.isSpace character || character == ';'
          pure (.label name)
    | 'b' | 't' | 'T' => do
      let name ← takeLabel
      takeEnd
      pure (.jump letter name)
    | 'q' | 'Q' => do
      let _ ← takeWhile isBlank
      let status ← takeNumber
      takeEnd
      pure (.quit (letter == 'q') status)
    | 'r' => do pure (.readFile (← takeFile))
    | 'w' => do pure (.writeFile (← takeFile))
    | 'l' => do
      let _ ← takeWhile isBlank
      let _ ← takeNumber
      takeEnd
      pure (.plain 'l')
    | letter =>
      if ['d', 'D', 'g', 'G', 'h', 'H', 'n', 'N', 'p', 'P', 'x', '=', 'z', 'F'].contains letter then do
        takeEnd
        pure (.plain letter)
      else fail ("unknown command: \x60" ++ letter.toString ++ "'")

/-- Takes the commands that are left. -/
def takeCommands (isExtended : Bool) : Nat → Nat → List Command → Reader (List Command)
  | 0, _, known => pure known.reverse
  | bound + 1, depth, known => do
    let _ ← takeWhile fun character => Arithmetic.isSpace character || character == ';'
    match ← look with
    | none =>
      if depth = 0 then pure known.reverse else throw (0, "unmatched \x60\x7b'")
    | some '#' => do
      let _ ← takeWhile (· ≠ '\n')
      takeCommands isExtended bound depth known
    | some _ =>
      let first ← takeAddress isExtended
      let _ ← takeWhile isBlank
      let stop ←
        if first.isSome ∧ (← look) = some ',' then do
          let _ ← take
          pure (some (← takeStop isExtended))
        else pure none
      match first, stop with
      | some (.number 0), some (.address (.search _)) => pure ()
      | some (.number 0), _ => do
        let _ ← take
        fail "invalid usage of line address 0"
      | _, _ => pure ()
      let _ ← takeWhile isBlank
      let marks ← takeWhile (· == '!')
      if 1 < marks.length then fail "multiple \x60!'s"
      let _ ← takeWhile isBlank
      if (← look) = some '#' ∧ first.isSome then
        let _ ← take
        fail "comments don't accept any addresses"
      let act ← takeAct isExtended first.isSome depth
      let depth := match act with
        | .openGroup => depth + 1
        | .closeGroup => depth - 1
        | _ => depth
      let one : Command := { first, stop, isNegated := !marks.isEmpty, act }
      takeCommands isExtended bound depth (one :: known)

/-- The mark that a jump misses, if one does. -/
def missingLabel? (commands : List Command) : Option String :=
  let labels := commands.filterMap fun command =>
    match command.act with
    | .label name => some name
    | _ => none
  commands.findSome? fun command =>
    match command.act with
    | .jump _ name => if name = "" ∨ labels.contains name then none else some name
    | _ => none

/-- Reads a script of several parts. A complaint comes with a status. -/
def read (isExtended : Bool) (parts : List String) : Except (String × Nat) (List Command) :=
  let text := "\n".intercalate parts
  match (takeCommands isExtended (text.length + 2) 0 []).run (text.toList, 0) with
  | .ok (commands, _) =>
    match missingLabel? commands with
    | some name => .error ("can't find label for jump to \x60" ++ name ++ "'", 4)
    | none => .ok commands
  | .error (place, complaint) =>
    -- Places are counted within the part that they lie in.
    let (number, place) := (parts.dropLast).foldl (fun (number, place) part =>
      if number.2 then (number, place)
      else if place ≤ part.length then ((number.1, true), place)
      else ((number.1 + 1, false), place - part.length - 1)) (((1, false) : Nat × Bool), place)
    .error
      ("-e expression #" ++ toString number.1 ++ ", char " ++ toString place ++ ": " ++ complaint, 1)

/-! ### Running -/

/-- A line, and whether it is ended. -/
abbrev Line := List Char × Bool

/-- Where an edit stands. -/
structure State where
  /-- The space that commands work on. -/
  space : List Char := []
  /-- Whether the line in it was ended. -/
  isEnded : Bool := true
  /-- The space that is held. -/
  held : List Char := []
  /-- The number of the line. -/
  number : Nat := 0
  /-- The lines that are left. -/
  rest : List Line
  /-- The output. -/
  output : String := ""
  /-- What is shown after the line. -/
  pending : List String := []
  /-- Whether something has been replaced. -/
  isReplaced : Bool := false
  /-- The ranges that have begun, by the numbers of their commands, with the numbers of their last
  lines if those are known. -/
  ranges : List (Nat × Option Nat) := []
  /-- The expression that was searched for last. -/
  searched : Option Search := none
  /-- The host. -/
  host : Host
  /-- The name of the file. -/
  file : String := "-"

/-- What comes after a command. -/
inductive Next where
  /-- The command with a number. -/
  | goTo (index : Nat)
  /-- The next line. -/
  | nextLine (shows : Bool)
  /-- The same commands again, without a line being read. -/
  | again
  /-- The end. -/
  | stop (shows : Bool) (status : Nat)

/-- Shows a line. -/
def State.show (state : State) (line : List Char) (isEnded : Bool) : State :=
  let before :=
    if state.output ≠ "" ∧ state.output.toList.getLast? ≠ some '\n' then state.output ++ "\n"
    else state.output
  { state with output := before ++ String.ofList line ++ if isEnded then "\n" else "" }

/-- Shows a text. -/
def State.showText (state : State) (text : String) : State :=
  let before :=
    if state.output ≠ "" ∧ state.output.toList.getLast? ≠ some '\n' then state.output ++ "\n"
    else state.output
  { state with output := before ++ text }

/-- Ends a line: shows the space if `shows`, and what waits for the end of the line. -/
def State.finish (state : State) (shows : Bool) : State :=
  let state := if shows then state.show state.space state.isEnded else state
  let state := state.pending.foldl State.showText state
  { state with pending := [] }

/-- The first match at or after a place. An empty expression stands for the last one. -/
def State.find (state : State) (search : Search) (start : Nat) : Option Expression.Match × State :=
  let search := match search.expression, state.searched with
    | none, some last => last
    | _, _ => search
  match search.expression with
  | none => (none, state)
  | some expression =>
    (expression.search search.ignoresCase state.space.toArray start,
      { state with searched := some search })

/-- Whether an address names the line. -/
def State.isAt (state : State) : Address → Bool × State
  | .number number => (state.number == number, state)
  | .step first step =>
    (if step = 0 then state.number == first
      else first ≤ state.number && (state.number - first) % step == 0, state)
  | .last => (state.rest.isEmpty, state)
  | .search search =>
    let (found, state) := state.find search 0
    (found.isSome, state)

/-- Whether a command is run on the line. -/
def State.isChosen (state : State) (index : Nat) (command : Command) : Bool × State :=
  match command.first, command.stop with
  | none, _ => (true, state)
  | some address, none => state.isAt address
  | some address, some stop =>
    let close (state : State) : State :=
      { state with ranges := state.ranges.filter fun range => range.1 ≠ index }
    let begins (state : State) : Bool × State :=
      let last? : Option Nat := match stop with
        | .address (.number number) => some number
        | .after count => some (state.number + count)
        | .multiple number =>
          some (if number = 0 then state.number
            else (state.number + number - 1) / number * number)
        | .address _ => none
      match last? with
      | some last =>
        if last ≤ state.number then (true, state)
        else (true, { state with ranges := (index, some last) :: state.ranges })
      | none => (true, { state with ranges := (index, none) :: state.ranges })
    let isFromFront : Bool := match address with
      | .number 0 => state.number == 1
      | _ => false
    match (if isFromFront then some none else state.ranges.lookup index) with
    | none =>
      let (isFirst, state) := state.isAt address
      if isFirst then begins state else (false, state)
    | some (some last) =>
      if last < state.number then
        let state := close state
        let (isFirst, state) := state.isAt address
        if isFirst then begins state else (false, state)
      else (true, if state.number = last then close state else state)
    | some none =>
      let (isLast, state) := match stop with
        | .address address => state.isAt address
        | _ => (false, state)
      if isLast then (true, close state)
      else (true, { close state with ranges := (index, none) :: (close state).ranges })

/-- The characters that pieces stand for. The first mode changes the case of all letters up to the
next change, the second one that of the next letter. -/
def replaced (space : List Char) (found : Expression.Match) :
    Option Char → Option Char → List Piece → List Char
  | _, _, [] => []
  | mode, once, piece :: rest =>
    let change (mode : Option Char) (character : Char) : Char :=
      match mode with
      | some 'U' | some 'u' => character.toUpper
      | some 'L' | some 'l' => character.toLower
      | _ => character
    let emit (text : List Char) : List Char :=
      match text with
      | [] => replaced space found mode once rest
      | first :: others =>
        (if once.isSome then change once first else change mode first) ::
          others.map (change mode) ++ replaced space found mode none rest
    match piece with
    | .character character => emit [character]
    | .group 0 => emit ((space.take found.stop).drop found.start)
    | .group number =>
      match found.groups.lookup number with
      | some (start, stop) => emit ((space.take stop).drop start)
      | none => emit []
    | .letters letter =>
      if letter = 'E' then replaced space found none once rest
      else if letter = 'u' ∨ letter = 'l' then replaced space found mode (some letter) rest
      else replaced space found (some letter) none rest

/-- Replaces matches from a place on. `count` is the number of matches before and `last` the end of
the match before. -/
def State.substituteFrom (state : State) (substitution : Substitution) :
    Nat → Nat → Nat → Option Nat → List Char → Bool → List Char × Bool × State
  | 0, start, _, _, done, isFound => (done ++ state.space.drop start, isFound, state)
  | bound + 1, start, count, last, done, isFound =>
    let size := state.space.length
    if size < start then (done, isFound, state)
    else
      match state.find substitution.search start with
      | (none, state) => (done ++ state.space.drop start, isFound, state)
      | (some found, state) =>
        let done := done ++ (state.space.take found.start).drop start
        let isEmpty := found.start == found.stop
        let step (done : List Char) : List Char :=
          if isEmpty then done ++ (state.space.drop found.stop).take 1 else done
        let next := if isEmpty then found.stop + 1 else found.stop
        if isEmpty && last == some found.start then
          state.substituteFrom substitution bound next count none (step done) isFound
        else if count + 1 < substitution.first then
          let kept := done ++ (state.space.take found.stop).drop found.start
          state.substituteFrom substitution bound next (count + 1) (some found.stop) (step kept) isFound
        else
          let done := done ++ replaced state.space found none none substitution.pieces
          if substitution.isGlobal then
            state.substituteFrom substitution bound next (count + 1) (some found.stop) (step done) true
          else (done ++ state.space.drop found.stop, true, state)

/-- Writes a line to a file. -/
def State.writeLine (state : State) (name : String) (line : List Char) : State :=
  if name = "/dev/stdout" then state.show line true
  else
    let before := (octetsAt state.host name).toOption.getD ""
    match writeOctets state.host name (before ++ String.ofList line ++ "\n") with
    | .ok host => { state with host }
    | .error _ => state

/-- The place of the command after the group that a command begins. -/
def afterGroup : Nat → Nat → List Command → Nat
  | _, index, [] => index
  | depth, index, command :: rest =>
    match command.act with
    | .openGroup => afterGroup (depth + 1) (index + 1) rest
    | .closeGroup => if depth ≤ 1 then index + 1 else afterGroup (depth - 1) (index + 1) rest
    | _ => afterGroup depth (index + 1) rest

/-- A text in which every character can be seen. -/
def unambiguous (text : List Char) : List Char :=
  (text.flatMap fun character =>
    match [('\\', "\\\\"), ('\x07', "\\a"), ('\x08', "\\b"), ('\x0c', "\\f"), ('\n', "\\n"), ('\r', "\\r"),
        ('\t', "\\t"), ('\x0b', "\\v")].lookup character with
    | some name => name.toList
    | none =>
      if 32 ≤ character.toNat ∧ character.toNat < 127 then [character]
      else
        let digits := Nat.toDigits 8 character.toNat
        '\\' :: List.replicate (3 - digits.length) '0' ++ digits) ++ ['$']

/-- Does what a letter stands for. -/
def State.act (state : State) (isQuiet : Bool) (letter : Char) (next : Nat) : Next × State :=
  match letter with
  | 'd' => (.nextLine false, state)
  | 'D' =>
    if state.space.contains '\n' then
      (.again, { state with space := (state.space.dropWhile (· ≠ '\n')).drop 1 })
    else (.nextLine false, state)
  | 'p' => (.goTo next, state.show state.space state.isEnded)
  | 'P' => (.goTo next, state.show (state.space.takeWhile (· ≠ '\n')) true)
  | 'g' => (.goTo next, { state with space := state.held })
  | 'G' => (.goTo next, { state with space := state.space ++ '\n' :: state.held })
  | 'h' => (.goTo next, { state with held := state.space })
  | 'H' => (.goTo next, { state with held := state.held ++ '\n' :: state.space })
  | 'x' => (.goTo next, { state with space := state.held, held := state.space })
  | 'z' => (.goTo next, { state with space := [] })
  | '=' => (.goTo next, state.showText (toString state.number ++ "\n"))
  | 'F' => (.goTo next, state.showText (state.file ++ "\n"))
  | 'l' => (.goTo next, state.showText (String.ofList (unambiguous state.space) ++ "\n"))
  | 'n' =>
    match state.rest with
    | [] => (.stop true 0, state)
    | (line, isEnded) :: rest =>
      let state := state.finish (!isQuiet)
      (.goTo next, { state with space := line, isEnded, rest, number := state.number + 1 })
  | 'N' =>
    match state.rest with
    | [] => (.stop true 0, state)
    | (line, isEnded) :: rest =>
      let state := state.finish false
      (.goTo next,
        { state with space := state.space ++ '\n' :: line, isEnded, rest, number := state.number + 1 })
  | _ => (.goTo next, state)

/-- Runs a command that the line is chosen for. -/
def State.runOne (state : State) (isQuiet : Bool) (commands : List Command) (command : Command)
    (next : Nat) : Next × State :=
  match command.act with
  | .openGroup | .closeGroup | .label _ => (.goTo next, state)
  | .jump letter name =>
    let jumps := match letter with
      | 'b' => true
      | 't' => state.isReplaced
      | _ => !state.isReplaced
    let state := if letter = 'b' then state else { state with isReplaced := false }
    if !jumps then (.goTo next, state)
    else if name = "" then (.nextLine true, state)
    else
      let isTarget (command : Command) : Bool := match command.act with
        | .label found => found == name
        | _ => false
      (.goTo ((commands.findIdx? isTarget).getD commands.length), state)
  | .substitute substitution =>
    let (space, isFound, state) :=
      state.substituteFrom substitution (2 * state.space.length + 4) 0 0 none [] false
    if isFound then
      let state := { state with space, isReplaced := true }
      let state := if substitution.shows then state.show space state.isEnded else state
      let state := match substitution.file with
        | some name => state.writeLine name space
        | none => state
      (.goTo next, state)
    else (.goTo next, state)
  | .translate table =>
    (.goTo next, { state with space := state.space.map fun character =>
      (table.lookup character).getD character })
  | .text 'a' text => (.goTo next, { state with pending := state.pending ++ [text] })
  | .text 'i' text => (.goTo next, state.showText text)
  | .text _ text =>
    let isOpen := command.stop.isSome && (state.ranges.any fun range => range.1 + 1 == next)
    if isOpen && !command.isNegated then (.nextLine false, state)
    else (.nextLine false, state.showText text)
  | .plain letter => state.act isQuiet letter next
  | .quit shows status => (.stop shows status, state)
  | .readFile name =>
    match octetsAt state.host name with
    | .ok content => (.goTo next, { state with pending := state.pending ++ [content] })
    | .error _ => (.goTo next, state)
  | .writeFile name => (.goTo next, state.writeLine name state.space)

/-- Runs commands on a line from one with a number on. -/
def State.runFrom (isQuiet : Bool) (commands : List Command) : Nat → Nat → State → Next × State
  | 0, _, state => (.stop false 1, state)
  | bound + 1, index, state =>
    match commands[index]? with
    | none => (.nextLine true, state)
    | some command =>
      let (isChosen, state) := state.isChosen index command
      if isChosen != command.isNegated then
        match state.runOne isQuiet commands command (index + 1) with
        | (.goTo next, state) => runFrom isQuiet commands bound next state
        | done => done
      else
        let next := match command.act with
          | .openGroup => afterGroup 0 index (commands.drop index)
          | _ => index + 1
        runFrom isQuiet commands bound next state

/-- Runs commands on all lines. Gives the status. -/
def State.run (isQuiet : Bool) (commands : List Command) : Nat → Bool → State → Nat × State
  | 0, _, state => (1, state)
  | bound + 1, reads, state =>
    match reads, state.rest with
    | true, [] => (0, state)
    | reads, rest =>
      let state := match reads, rest with
        | true, (line, isEnded) :: rest =>
          { state with space := line, isEnded, rest, number := state.number + 1, isReplaced := false }
        | _, _ => state
      let (next, state) := runFrom isQuiet commands 100000 0 state
      match next with
      | .stop shows status => (status, state.finish (shows && !isQuiet))
      | .again => run isQuiet commands bound false (state.finish false)
      | .nextLine shows => run isQuiet commands bound true (state.finish (shows && !isQuiet))
      | .goTo _ => run isQuiet commands bound true state

/-- The lines of a text. -/
def linesIn (content : String) : List Line :=
  (linesOf content.toList).map fun line =>
    if line.getLast? = some '\n' then (line.dropLast, true) else (line, false)

/-- Edits lines. -/
def edit (isQuiet : Bool) (commands : List Command) (file : String) (host : Host) (lines : List Line) :
    Nat × State :=
  State.run isQuiet commands (20 * lines.length + 1000) true { rest := lines, host, file }

/-- Edits files in their places, or shows what becomes of them. -/
def sed (call : Call) : Written :=
  let arguments := call.arguments.map fun argument =>
    if argument.startsWith "--in-place" then "-i" else argument
  let spelling : Options.Spelling :=
    { flags := "nErsuz", valued := "efl",
      long := [("quiet", 'n'), ("silent", 'n'), ("expression", 'e'), ("file", 'f'),
        ("regexp-extended", 'E'), ("separate", 's'), ("unbuffered", 'u')] }
  -- The rest of an argument after `i` is an ending, which no option may follow.
  let inPlace := arguments.any fun argument =>
    match argument.toList with
    | '-' :: letter :: letters =>
      letter ≠ '-' && ((letter :: letters).takeWhile fun letter =>
        !(['e', 'f', 'l'].contains letter)).contains 'i'
    | _ => false
  let arguments := arguments.filterMap fun argument =>
    match argument.toList with
    | '-' :: letter :: letters =>
      if letter = '-' then some argument
      else
        let front := (letter :: letters).takeWhile fun letter => letter ≠ 'i'
        if front.any fun letter => ['e', 'f', 'l'].contains letter then some argument
        else if front = [] then none
        else some (String.ofList ('-' :: front))
    | _ => some argument
  match Options.read spelling arguments with
  | .error text => call.nothing.complain call text 1
  | .ok options =>
    let given := options.given.filter fun (letter, _) => letter == 'e' || letter == 'f'
    let (parts, operands) :=
      if given.isEmpty then (options.operands.take 1, options.operands.drop 1)
      else
        (given.map fun (letter, value) =>
          if letter = 'e' then value
          else
            let text := (call.contentOf value).toOption.getD ""
            if text.toList.getLast? = some '\n' then String.ofList text.toList.dropLast else text,
          options.operands)
    let unread := (given.filter (·.1 == 'f')).find? fun (_, name) => !(call.contentOf name).toBool
    match unread with
    | some (_, name) =>
      call.nothing.complain call ("couldn't open file " ++ name ++ ": No such file or directory") 4
    | none =>
      match read (options.has 'E' || options.has 'r') parts with
      | .error (text, status) => call.nothing.complain call text status
      | .ok commands =>
        let isQuiet := options.has 'n' || ((parts.headD "").startsWith "#n\n") || parts.head? = some "#n"
        let complaint (operand : String) (fault : Disk.Fault) : String :=
          if fault = .isDirectory then
            (if inPlace then "couldn't edit " ++ operand ++ ": not a regular file"
              else "read error on " ++ operand ++ ": Is a directory")
          else "can't read " ++ operand ++ ": " ++ reasonOf fault
        let (contents, written) := call.throughFiles operands [] complaint 2
          fun before operand content => before ++ [(operand, content)]
        if inPlace then
          contents.foldl (fun written (operand, content) =>
            let (status, state) := edit isQuiet commands operand written.host (linesIn content)
            match writeOctets state.host operand state.output with
            | .ok host => { written with host, status := max written.status status }
            | .error _ => written) written
        else
          let blocks :=
            if options.has 's' then contents.map fun (_, content) => linesIn content
            else [contents.flatMap fun (_, content) => linesIn content]
          let written :=
            if operands.any fun operand => call.host.isDirectory ⟨textOf operand⟩ then
              { written with status := 4 }
            else written
          blocks.foldl (fun written lines =>
            let name := operands.headD "-"
            let (status, state) := edit isQuiet commands name written.host lines
            let written := written.say state.output
            { written with host := state.host, status := max written.status status }) written

end DecompileServer.Program.Editing

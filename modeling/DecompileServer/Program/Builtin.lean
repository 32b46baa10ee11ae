import DecompileServer.Program.Condition
import DecompileServer.Program.Pattern
import DecompileServer.Program.Printed
import DecompileServer.Program.Shell
import DecompileServer.Program.Signal

/-!
# Commands of the shell itself

Those that run no other command. Some are special: when they fail the shell ends, and what is
assigned before them lasts.
-/
namespace DecompileServer.Program

open Disk (Fault)

/-- A command of the shell: it takes arguments and gives a status. -/
abbrev Builtin := List String → Run Nat

namespace Builtin

open Shell

/-- Writes to the output, which may be closed. -/
def say (text : String) : Run Nat := do
  if ← write 1 text then pure 0
  else
    let name := ((← get).command).getD ""
    complain (name ++ ": I/O error")
    pure 1

/-- The number that a text writes. -/
def numberOf (text : String) : Run Nat := do
  if text ≠ "" ∧ text.toList.all Char.isDigit then pure (Arithmetic.digitsIn 10 text.toList).1
  else fail ("Illegal number: " ++ text)

/-- Takes options that are letters without values. -/
def optionsOf (letters : String) : List String → List Char → Run (List Char × List String)
  | [], given => pure (given, [])
  | argument :: rest, given =>
    match argument.toList with
    | ['-', '-'] => pure (given, rest)
    | '-' :: first :: others => do
      match (first :: others).find? fun letter => !letters.toList.contains letter with
      | some letter => fail ("Illegal option -" ++ letter.toString)
      | none => optionsOf letters rest (given ++ first :: others)
    | _ => pure (given, argument :: rest)

/-- A text between single quotes, so that a shell reads it as one word. -/
def quoted (text : String) : String :=
  let pieces := text.splitOn "'"
  "'" ++ "'\"'\"'".intercalate pieces ++ "'"

/-- Takes an argument apart that may be an assignment. -/
def assignmentOf (argument : String) : String × Option String :=
  let name := argument.toList.takeWhile (· ≠ '=')
  if name.length = argument.length then (argument, none)
  else (String.ofList name, some (String.ofList (argument.toList.drop (name.length + 1))))

/-! ### Words and numbers -/

/-- Repeats its arguments. -/
def echo : Builtin := fun arguments => say (Print.echo arguments)

/-- Prints by a format. -/
def printf : Builtin := fun arguments => do
  match arguments with
  | "--" :: format :: rest | format :: rest =>
    let (print, complaint) := Print.formatted format.toList (rest.length + 1) rest {}
    for text in print.complaints do
      complain text
    match complaint with
    | some text => do
      complain text
      let _ ← say (String.ofList print.output)
      pure 2
    | none => do
      let status ← say (String.ofList print.output)
      pure (if print.complaints.isEmpty then status else 1)
  | [] => fail "usage: printf format [arg ...]"

/-- Tests a condition. -/
def test (name : String) : Builtin := fun arguments => do
  match Condition.holds (← get).host name arguments with
  | .ok value => pure (if value then 0 else 1)
  | .error fault => fail fault.message

/-! ### Directories -/

/-- Shows the working directory. -/
def pwd : Builtin := fun arguments => do
  let _ ← optionsOf "LP" arguments []
  say (octetsOf (← get).host.workingPath.text ++ "\n")

/-- Goes to a directory. -/
def cd : Builtin := fun arguments => do
  let (_, operands) ← optionsOf "LPe" arguments []
  let shell ← get
  let (target, isShown) := match operands with
    | [] => ((shell.valueOf? "HOME").getD "", false)
    | "-" :: _ => ((shell.valueOf? "OLDPWD").getD "", true)
    | target :: _ => (target, false)
  let target := if target = "" then "." else target
  let before := octetsOf shell.host.workingPath.text
  match shell.host.nodeAt ⟨textOf target⟩, shell.host.locate ⟨textOf target⟩ with
  | .ok .directory, .ok location => do
    set { shell with host := { shell.host with workingDirectory := location } }
    let here := octetsOf (← get).host.workingPath.text
    for (name, value) in [("OLDPWD", before), ("PWD", here)] do
      modify fun shell => shell.withVariable name { value := some value, isExported := true }
    if isShown then say (here ++ "\n") else pure 0
  | _, _ => fail ("can't cd to " ++ target)

/-- Shows or sets the mask of modes. -/
def umask : Builtin := fun arguments => do
  let (letters, operands) ← optionsOf "S" arguments []
  let shell ← get
  match operands with
  | [] =>
    if letters.contains 'S' then
      let allowed (shift : Nat) : String :=
        let bits := (511 - shell.mask) >>> shift
        String.ofList (([(4, 'r'), (2, 'w'), (1, 'x')].filter fun (bit, _) => bits &&& bit ≠ 0).map (·.2))
      say ("u=" ++ allowed 6 ++ ",g=" ++ allowed 3 ++ ",o=" ++ allowed 0 ++ "\n")
    else
      let digits := Nat.toDigits 8 shell.mask
      say (String.ofList (List.replicate (4 - digits.length) '0' ++ digits) ++ "\n")
  | mode :: _ =>
    if mode.toList.all fun digit => '0' ≤ digit ∧ digit ≤ '7' then
      set { shell with mask := (Arithmetic.digitsIn 8 mode.toList).1 }
      pure 0
    else if mode.toList.all fun letter => "ugoarwxX=+-,".toList.contains letter then pure 0
    else fail ("Illegal mode: " ++ mode)

/-! ### Variables -/

/-- The variables in the order of their names. -/
def sortedVariables (shell : Shell) : List (String × Variable) :=
  shell.bindings.mergeSort fun left right => !(decide (right.1 < left.1))

/-- Shows variables that pass a test, as commands that make them. -/
def showVariables (command : String) (test : Variable → Bool) : Run Nat := do
  let chosen := (sortedVariables (← get)).filter fun (_, found) => test found
  say (String.join (chosen.map fun (name, found) =>
    command ++ " " ++ name ++ ((found.value.map fun value => "=" ++ quoted value).getD "") ++ "\n"))

/-- Marks variables, which may be assigned to at the same time. -/
def markVariables (command : String) (test : Variable → Bool) (mark : Variable → Variable) : Builtin :=
  fun arguments => do
    let (letters, operands) ← optionsOf "p" arguments []
    if operands.isEmpty || letters.contains 'p' then showVariables command test
    else
      for operand in operands do
        let (name, value) := assignmentOf operand
        if !isName name then fail (name ++ ": bad variable name")
        if let some value := value then assign name value
        let found := ((← get).bindings.lookup name).getD {}
        modify fun shell => shell.withVariable name (mark found)
      pure 0

/-- Lets programs see variables. -/
def exporting : Builtin :=
  markVariables "export" (·.isExported) fun found => { found with isExported := true }

/-- Lets variables keep their values. -/
def protecting : Builtin :=
  markVariables "readonly" (·.isReadOnly) fun found => { found with isReadOnly := true }

/-- Removes variables or functions. -/
def unset : Builtin := fun arguments => do
  let (letters, operands) ← optionsOf "vf" arguments []
  for name in operands do
    if letters.getLast? = some 'f' then
      modify fun shell => { shell with functions := shell.functions.filter fun entry => entry.1 ≠ name }
    else if !isName name then fail (name ++ ": bad variable name")
    else
      let found := ((← get).bindings.lookup name).getD {}
      if found.isReadOnly then fail (name ++ ": is read only")
      modify fun shell => shell.without name
  pure 0

/-- Makes variables local to a function. -/
def localize : Builtin := fun arguments => do
  match (← get).frames with
  | [] => fail "not in a function"
  | _ :: _ =>
    for operand in arguments do
      let (name, value) := assignmentOf operand
      if operand ≠ "-" && !isName name then fail (name ++ ": bad variable name")
      let shell ← get
      let hidden := if operand = "-" then some { value := some (String.ofList shell.options) }
        else shell.bindings.lookup name
      match shell.frames with
      | frame :: frames =>
        if !(frame.any (·.1 == name)) then
          set { shell with frames := (frame ++ [(name, hidden)]) :: frames }
      | [] => pure ()
      if let some value := value then assign name value
    pure 0

/-- The options by their names. -/
def optionNames : List (String × Char) :=
  [("errexit", 'e'), ("noglob", 'f'), ("ignoreeof", 'I'), ("interactive", 'i'), ("monitor", 'm'),
    ("noexec", 'n'), ("stdin", 's'), ("xtrace", 'x'), ("verbose", 'v'), ("vi", 'V'), ("emacs", 'E'),
    ("noclobber", 'C'), ("allexport", 'a'), ("notify", 'b'), ("nounset", 'u'), ("privileged", 'p'),
    ("nolog", 'l'), ("debug", 'd')]

/-- Sets or unsets an option. -/
def switch (isOn : Bool) (letter : Char) : Run Unit :=
  modify fun shell =>
    let others := shell.options.filter (· ≠ letter)
    { shell with options := if isOn then others ++ [letter] else others }

/-- Shows the options. -/
def showOptions (isOn : Bool) : Run Unit := do
  let shell ← get
  let lines := optionNames.map fun (name, letter) =>
    if isOn then
      name ++ String.ofList (List.replicate (16 - name.length) ' ') ++
        (if shell.isSet letter then "on" else "off") ++ "\n"
    else "set " ++ (if shell.isSet letter then "-o " else "+o ") ++ name ++ "\n"
  let _ ← say ((if isOn then "Current option settings\n" else "") ++ String.join lines)

/-- Sets the options that arguments name. Gives the arguments after them, if there are any, or if
something says that there are none. -/
def setOptions : Nat → List String → Run (Option (List String))
  | 0, _ => pure none
  | _ + 1, [] => pure none
  | limit + 1, argument :: rest => do
    match argument.toList with
    | ['-', '-'] => pure (some rest)
    | ['-'] => do
      switch false 'x'
      switch false 'v'
      pure (if rest.isEmpty then none else some rest)
    | sign :: letter :: letters =>
      if sign = '-' ∨ sign = '+' then
        let isOn := sign == '-'
        let rest ← (letter :: letters).foldlM (fun (rest : List String) letter => do
          if letter = 'o' then
            match rest with
            | [] => do
              showOptions isOn
              pure []
            | name :: rest =>
              match optionNames.lookup name with
              | some letter => do
                switch isOn letter
                pure rest
              | none => fail ("Illegal option -o " ++ name)
          else if optionNames.any fun (_, known) => known == letter && known ≠ 'l' && known ≠ 'd' then do
            switch isOn letter
            pure rest
          else fail ("Illegal option " ++ sign.toString ++ letter.toString)) rest
        setOptions limit rest
      else pure (some (argument :: rest))
    | _ => pure (some (argument :: rest))

/-- Sets options and arguments, or shows variables. -/
def setting : Builtin := fun arguments => do
  if arguments.isEmpty then
    say (String.join ((sortedVariables (← get)).filterMap fun (name, found) =>
      found.value.map fun value => name ++ "=" ++ quoted value ++ "\n"))
  else
    match ← setOptions (arguments.length + 1) arguments with
    | some rest => do
      modify fun shell => { shell with arguments := rest, optionPlace := 0 }
      assign "OPTIND" "1"
      pure 0
    | none => pure 0

/-- Drops arguments from the front. -/
def shift : Builtin := fun arguments => do
  let count ← match arguments with
    | [] => pure 1
    | text :: _ => numberOf text
  let shell ← get
  if shell.arguments.length < count then fail "can't shift that many"
  else
    set { shell with arguments := shell.arguments.drop count }
    assign "OPTIND" "1"
    pure 0

/-! ### Reading -/

/-- Takes the line at the front of a text, the characters after backslashes being quoted unless
`isRaw`. Gives the glyphs, whether the line is ended and the number of characters. -/
def lineAt (isRaw : Bool) : Nat → List Char → List Glyph → Nat → List Glyph × Bool × Nat
  | 0, _, glyphs, count => (glyphs.reverse, false, count)
  | _ + 1, [], glyphs, count => (glyphs.reverse, false, count)
  | _ + 1, '\n' :: _, glyphs, count => (glyphs.reverse, true, count + 1)
  | limit + 1, character :: rest, glyphs, count =>
    if character = '\x00' then lineAt isRaw limit rest glyphs (count + 1)
    else if character = '\\' ∧ !isRaw then
      match rest with
      | [] => (glyphs.reverse, false, count + 1)
      | '\n' :: rest => lineAt isRaw limit rest glyphs (count + 2)
      | next :: rest => lineAt isRaw limit rest (⟨next, true⟩ :: glyphs) (count + 2)
    else lineAt isRaw limit rest (⟨character, false⟩ :: glyphs) (count + 1)

/-- Splits a line into so many fields, the last of which takes all that is left. -/
def fieldsOf (separators : List Char) : Nat → List Glyph → List String
  | 0, _ => []
  | count + 1, glyphs =>
    let separates (glyph : Glyph) : Bool := !glyph.isQuoted && separators.contains glyph.character
    let isWhite (glyph : Glyph) : Bool :=
      separates glyph && [' ', '\t', '\n'].contains glyph.character
    let glyphs := glyphs.dropWhile isWhite
    let field := glyphs.takeWhile (!separates ·)
    let after := (glyphs.drop field.length).dropWhile isWhite
    let after := match after with
      | glyph :: rest => if separates glyph then rest.dropWhile isWhite else after
      | [] => []
    if count = 0 ∧ after ≠ [] then
      [textOfGlyphs ((glyphs.reverse.dropWhile isWhite).reverse)]
    else textOfGlyphs field :: fieldsOf separators count after

/-- Reads a line into variables. -/
def reading : Builtin := fun arguments => do
  let (arguments, prompt) := match arguments with
    | "-p" :: prompt :: rest => (rest, prompt)
    | "-r" :: "-p" :: prompt :: rest => ("-r" :: rest, prompt)
    | arguments => (arguments, "")
  let (letters, names) ← optionsOf "r" arguments []
  let _ := prompt
  if names.isEmpty then fail "arg count"
  let shell ← get
  match shell.channels.rest? shell.host 0 with
  | none => pure 1
  | some text =>
    let (glyphs, isEnded, count) := lineAt (letters.contains 'r') (text.length + 1) text.toList [] 0
    modify fun shell => { shell with channels := shell.channels.pass 0 count }
    let values := fieldsOf shell.separators.toList names.length glyphs
    for (name, index) in names.zipIdx do
      if !isName name then fail (name ++ ": bad variable name")
      assign name (values.getD index "")
    pure (if isEnded then 0 else 1)

/-- Takes the next option from arguments. -/
def getopts : Builtin := fun arguments => do
  match arguments with
  | letters :: name :: given => do
    let shell ← get
    let words := if given.isEmpty then shell.arguments else given
    let index := ((shell.valueOf? "OPTIND").bind String.toNat?).getD 1
    let spelled := letters.toList
    let isSilent := spelled.head? == some ':'
    let finish (letter : Char) (value : Option String) (index place status : Nat) : Run Nat := do
      match value with
      | some value => assign "OPTARG" value
      | none => modify fun shell => shell.without "OPTARG"
      assign "OPTIND" (toString index)
      if !isName name then fail (name ++ ": bad variable name")
      assign name letter.toString
      modify fun shell => { shell with optionPlace := place }
      pure status
    let old := shell.valueOf? "OPTARG"
    -- The rest of an argument in which an option has been found, or the next argument.
    let current := ((words[index - 2]?).getD "").toList.drop shell.optionPlace
    let isInside := 1 < index && shell.optionPlace ≠ 0 && current ≠ []
    let next : Option (List Char × Nat) :=
      if isInside then some (current, index)
      else
        match words[index - 1]? with
        | some word =>
          match word.toList with
          | ['-', '-'] => some ([], index + 1)
          | '-' :: letter :: rest => some (letter :: rest, index + 1)
          | _ => none
        | none => none
    match next with
    | none => finish '?' old index 0 1
    | some ([], index) => finish '?' old index 0 1
    | some (letter :: rest, index) =>
      let place := (((words[index - 2]?).getD "").length - rest.length)
      let place := if rest.isEmpty then 0 else place
      let found := spelled.dropWhile (· ≠ letter)
      if letter = ':' || found.isEmpty then
        if isSilent then finish '?' (some letter.toString) index place 0
        else
          speak ("Illegal option -" ++ letter.toString ++ "\n")
          finish '?' none index place 0
      else if found[1]? = some ':' then
        if rest ≠ [] then finish letter (some (String.ofList rest)) index 0 0
        else
          match words[index - 1]? with
          | some value => finish letter (some value) (index + 1) 0 0
          | none =>
            if isSilent then finish ':' (some letter.toString) index 0 0
            else
              speak ("No arg for -" ++ letter.toString ++ " option\n")
              finish '?' none index 0 0
      else finish letter (some "") index place 0
  | _ => fail "Usage: getopts optstring var [arg...]"

/-! ### Ends -/

/-- Ends the shell, with the status that it is ending with already if it is. -/
def exit : Builtin := fun arguments => do
  match arguments with
  | text :: _ => leave (← numberOf text)
  | [] => modify fun shell => { shell with status := shell.ending.getD shell.status }
  throw .exit

/-- Ends a function or a file. -/
def returning : Builtin := fun arguments => do
  if let text :: _ := arguments then leave (← numberOf text)
  throw .returned

/-- Ends loops, or lets them go on. -/
def leaving (halt : Nat → Halt) : Builtin := fun arguments => do
  let count ← match arguments with
    | [] => pure 1
    | text :: _ => do
      let count ← numberOf text
      if count = 0 then fail ("Illegal number: " ++ text) else pure count
  let loops := (← get).loops
  if loops = 0 then pure 0 else throw (halt (min count loops))

/-! ### Signals -/

/-- Says what is to be done at signals. -/
def trap : Builtin := fun arguments => do
  let (_, arguments) ← optionsOf "" (if arguments.head? = some "-" then "--" :: arguments else arguments) []
  match arguments with
  | [] => do
    let traps := (← get).traps.mergeSort fun left right =>
      decide (Signal.number left.1 ≤ Signal.number right.1)
    say (String.join (traps.map fun (name, action) =>
      "trap -- " ++ quoted action ++ " " ++ name ++ "\n"))
  | first :: rest => do
    let (action, names) := match rest with
      | [] => (none, [first])
      | rest => (if first = "-" then none else some first, rest)
    for name in names do
      match Signal.named? name with
      | none => do
        speak ("trap: " ++ name ++ ": bad trap\n")
        return 1
      | some name =>
        modify fun shell =>
          let others := shell.traps.filter fun entry => entry.1 ≠ name
          { shell with traps := match action with
            | some action => others ++ [(name, action)]
            | none => others }
    pure 0

/-- Sends a signal to the shell. The number zero is that of none. -/
def receive (name : String) : Run Unit := do
  if name = Signal.exit then return
  match (← get).traps.lookup name with
  | some action =>
    if action ≠ "" ∧ name ≠ "KILL" ∧ name ≠ "STOP" then
      modify fun shell => { shell with signals := shell.signals ++ [name] }
    else if name = "KILL" then throw (.killed 9)
  | none => if !Signal.isHarmless name then throw (.killed (Signal.number name))

/-- Sends signals. -/
def kill : Builtin := fun arguments => do
  let usage : String :=
    "Usage: kill [-s sigspec | -signum | -sigspec] [pid | job]... or\nkill -l [exitstatus]"
  let (signal, targets) ← match arguments with
    | "-s" :: name :: rest =>
      match Signal.named? name with
      | some name => pure (name, rest)
      | none => fail ("invalid signal number or name: " ++ name)
    | first :: rest =>
      match first.toList with
      | '-' :: letter :: letters =>
        if first = "-l" || first = "--" then pure (if first = "--" then "TERM" else "", rest)
        else
          match Signal.named? (String.ofList (letter :: letters)) with
          | some name => pure (name, rest)
          | none => fail ("Illegal option -" ++ letter.toString)
      | _ => pure ("TERM", first :: rest)
    | [] => fail usage
  if signal = "" then
    match targets with
    | [] => say (ofLines Signal.listed)
    | text :: _ =>
      let number ← numberOf text
      match (if number = 0 then none else Signal.names[number % 128]?) with
      | some name => say (name ++ "\n")
      | none => fail ("invalid signal number or exit status: " ++ text)
  else if targets.isEmpty then fail usage
  else
    let mut status := 0
    for target in targets do
      let number ← numberOf target
      if number = (← get).process then receive signal
      else
        complain "No such process\n"
        status := 1
    pure status

/-- Waits for processes. -/
def wait : Builtin := fun arguments => do
  let (_, operands) ← optionsOf "" arguments []
  let jobs := (← get).jobs
  match operands.getLast? with
  | none => pure 0
  | some text => pure ((jobs.lookup (← numberOf text)).getD 127)

/-! ### The rest -/

/-- Does nothing. -/
def nothing : Builtin := fun _ => pure 0

/-- Fails. -/
def failing : Builtin := fun _ => pure 1

/-- Shows the time that has been used. -/
def times : Builtin := fun _ => say "0m0.000000s 0m0.000000s\n0m0.000000s 0m0.000000s\n"

/-- Shows that there are no limits. -/
def ulimit : Builtin := fun _ => say "unlimited\n"

/-- Fails because there are no jobs. -/
def noJob : Builtin := fun _ => fail "No current job"

/-- The commands that run no other commands, by their names. -/
def table : List (String × Builtin) :=
  [(":", nothing), ("true", nothing), ("false", failing), ("echo", echo), ("printf", printf),
    ("test", test "test"), ("[", test "["), ("pwd", pwd), ("cd", cd), ("chdir", cd), ("umask", umask),
    ("export", exporting), ("readonly", protecting), ("unset", unset), ("local", localize),
    ("set", setting), ("shift", shift), ("read", reading), ("getopts", getopts), ("exit", exit),
    ("return", returning), ("break", leaving .broken), ("continue", leaving .continued), ("trap", trap),
    ("kill", kill), ("wait", wait), ("times", times), ("ulimit", ulimit), ("jobs", nothing), ("fg", noJob),
    ("bg", noJob), ("alias", nothing), ("unalias", nothing)]

/-- Those that take assignments as arguments. -/
def assigning : List String := ["export", "readonly", "local"]

/-- Those that run other commands. -/
def running : List String := ["eval", ".", "exec", "command", "type", "hash"]

/-- Whether a name is that of a command of the shell. -/
def isKnown (name : String) : Bool := table.any (·.1 == name) || running.contains name

end Builtin

end DecompileServer.Program

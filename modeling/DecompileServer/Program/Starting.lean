import DecompileServer.Program.Builtin
import DecompileServer.Program.Command
import DecompileServer.Program.Finding
import DecompileServer.Program.Redirecting
import DecompileServer.Program.Subshell
import DecompileServer.Program.Utility.Table

/-!
# Starting programs

A name is searched for and leads to a program of the system, to a script with an interpreter or to a
script without one, which a shell of its own runs. Some programs start others.
-/
namespace DecompileServer.Program.Shell

section

variable (exec : Runner)

/-- The file that a name stands for. A name without a slash is searched for, in the usual directories if
no variable names others; the flag of a missing one says whether something of its name was found that is
no program. -/
def programIn (shell : Shell) (usual name : String) : Except Bool (Path × List UInt8) :=
  let look (path : Path) : Except Bool (Path × List UInt8) :=
    match shell.host.nodeAt path with
    | .ok (.file content true) => .ok (path, content)
    | .ok _ => .error true
    | .error _ => .error false
  if name.toList.contains '/' then look ⟨textOf name⟩
  else
    let directories := ((shell.valueOf? "PATH").getD usual).toList.splitOn ':'
    directories.foldl (fun found directory =>
      match found with
      | .ok program => .ok program
      | .error isThere =>
        let directory : Path := ⟨textOf (String.ofList directory)⟩
        match look (directory.join (textOf name)) with
        | .ok program => .ok program
        | .error isHere => .error (isThere || isHere)) (.error false)

/-- The file that a name stands for in a shell. -/
def programAt (shell : Shell) (name : String) : Except Bool (Path × List UInt8) :=
  shell.programIn "" name

/-- How a program ends. -/
inductive Ending where
  /-- It ends by itself with a status. -/
  | exited (status : Nat)
  /-- A signal kills it. -/
  | killed (signal : Nat)
  deriving DecidableEq, Repr

/-- The status that a program leaves in the shell that has started it. -/
def Ending.status : Ending → Nat
  | .exited status => status
  | .killed signal => 128 + signal

/-- Takes note of the end of a program. -/
def note (ending : Ending) : Run Unit := do
  if let .killed signal := ending then
    if let some notice := Signal.notice? signal then speak (notice ++ "\n")
  leave ending.status

/-- Remembers that a program has been found in a directory. -/
def remember (name : String) : Run Unit :=
  modify fun shell =>
    if name.toList.contains '/' || shell.remembered.contains name then shell
    else { shell with remembered := name :: shell.remembered }

/-- Says that a program cannot be started. -/
def missing (name : String) (isThere : Bool) : Run Ending := do
  complain (name ++ ": " ++ if isThere then "Permission denied" else "not found")
  pure (.exited (if isThere && name.toList.contains '/' then 126 else 127))

/-- Runs a program of the system. -/
def runUtility (utility : Call → Written) (name : String) (arguments : List String) : Run Ending := do
  let shell ← get
  let call : Call :=
    { name, arguments
      input := (shell.channels.rest? shell.host 0).getD ""
      readsFile := shell.channels.isFile 0
      host := shell.hostForPrograms }
  let written := utility call
  modify fun shell =>
    { shell with
      host := { shell.host with tree := written.host.tree }
      channels := if written.readsInput then shell.channels.pass 0 call.input.length else shell.channels }
  speak written.errors
  let _ ← write 1 written.output
  pure (.exited written.status)

/-- What the options of a shell leave to be run. -/
inductive Given where
  /-- A text. -/
  | text (text : String)
  /-- A file. -/
  | file (name : String)
  /-- The input. -/
  | input

/-- Takes the options of a shell. Gives what is to be run, and the arguments. -/
def takeOptions : Nat → Bool → Bool → List String → Run (Given × List String)
  | 0, _, _, _ => pure (.input, [])
  | limit + 1, hasText, isInput, arguments => do
    let finish (rest : List String) : Run (Given × List String) := do
      if hasText then
        match rest with
        | [] => fail "-c requires an argument"
        | text :: rest =>
          match rest with
          | [] => pure (.text text, [])
          | name :: rest => do
            modify fun shell => { shell with name }
            pure (.text text, rest)
      else if isInput then pure (.input, rest)
      else
        match rest with
        | [] => do
          Builtin.switch true 's'
          pure (.input, [])
        | name :: rest => pure (.file name, rest)
    match arguments with
    | [] => finish []
    | argument :: rest =>
      match argument.toList with
      | ['-'] | ['-', '-'] => finish rest
      | sign :: letter :: letters =>
        if sign = '-' ∨ sign = '+' then
          let letters := letter :: letters
          let own := letters.filter fun letter => letter ≠ 'c' ∧ letter ≠ 'l' ∧ letter ≠ 's'
          let rest ←
            if own = [] then pure rest
            else do
              let words := if own.contains 'o' then rest.take 1 else []
              let _ ← Builtin.setOptions 2 (String.ofList (sign :: own) :: words)
              pure (rest.drop words.length)
          takeOptions limit (hasText || letters.contains 'c') (isInput || letters.contains 's') rest
        else finish arguments
      | _ => finish arguments

/-- Runs a shell with arguments. -/
def runShell (name : String) (arguments : List String) : Run Unit := do
  let (given, rest) ← takeOptions (arguments.length + 1) false false arguments
  modify fun shell => { shell with arguments := rest, line := 1 }
  match given with
  | .text text => runText exec false text
  | .input => do
    let shell ← get
    let text := (shell.channels.rest? shell.host 0).getD ""
    modify fun shell => { shell with channels := shell.channels.pass 0 text.length }
    runText exec false text
  | .file file => do
    let shell ← get
    match shell.host.read ⟨textOf file⟩ with
    | .ok content => do
      modify fun shell => { shell with name := file }
      runText exec false (String.ofList (ofOctets content))
    | .error fault => do
      set { shell with name, line := 0 }
      fail ("cannot open " ++ file ++ ": " ++ openingFault false fault)

/-- The state of a shell that begins. -/
def beginning (host : Host) (name : String) (channels : Channels) (process : Nat) : Shell where
  host := host
  name := name
  channels := channels
  bindings := firstVariables host
  line := 0
  process := process
  started := process

/-- Runs a shell as a program of its own. -/
def runProgram (name : String) (body : Run Unit) : Run Ending := do
  let outer ← get
  set (beginning outer.hostForPrograms name outer.channels (outer.started + 1))
  let halt ← halting body
  finish exec halt
  let inner ← get
  set { outer with
    host := { outer.host with tree := inner.host.tree }
    channels := { inner.channels with descriptors := outer.channels.descriptors }
    started := inner.started }
  match halt with
  | some (.killed signal) => pure (.killed signal)
  | _ => pure (.exited (inner.status % 256))

/-- The interpreter that the first line of a file names, with its argument if there is one. -/
def interpreterOf? (content : List UInt8) : Option (String × Option String) :=
  match ofOctets content with
  | '#' :: '!' :: rest =>
    let isGap (character : Char) : Bool := character == ' ' || character == '\t'
    let line := (rest.takeWhile (· ≠ '\n')).dropWhile isGap
    let line := (line.reverse.dropWhile isGap).reverse
    let interpreter := line.takeWhile (!isGap ·)
    let argument := (line.drop interpreter.length).dropWhile isGap
    some (String.ofList interpreter, if argument = [] then none else some (String.ofList argument))
  | _ => none

/-- What a file does when it is run. -/
inductive FileProgram where
  /-- It is a program of the system. -/
  | ofSystem (name : String)
  /-- A program of the system, which is called by a path, interprets it with some first arguments. -/
  | interpreted (name path : String) (given : List String)
  /-- It cannot be run. -/
  | broken
  /-- It names no interpreter. -/
  | plain

/-- The name of the program of the system at a path, if there is one. -/
def systemProgram? (host : Host) (path : Path) : Option String :=
  match host.nodeAt path, host.locate path with
  | .ok (.file _ true), .ok location => Utility.nameAt? location
  | _, _ => none

/-- What the file at a path does when it is run, if no more than so many files have an interpreter each.
An interpreter may itself have one, which is then given its path. -/
def programFrom : Nat → Host → Path → List UInt8 → FileProgram
  | 0, _, _, _ => .broken
  | limit + 1, host, path, content =>
    match systemProgram? host path with
    | some name => .ofSystem name
    | none =>
      match interpreterOf? content with
      | none => .plain
      | some (interpreter, argument) =>
        match host.nodeAt ⟨textOf interpreter⟩ with
        | .ok (.file content true) =>
          match programFrom limit host ⟨textOf interpreter⟩ content with
          | .ofSystem name => .interpreted name interpreter argument.toList
          | .interpreted name path given =>
            .interpreted name path (given ++ interpreter :: argument.toList)
          | .plain => .plain
          | .broken => .broken
        | _ => .broken

/-- How many interpreters may stand one behind the other. -/
def interpreterLimit : Nat := 6

/-- What the file at a path does when it is run. -/
def programOf (host : Host) (path : Path) (content : List UInt8) : FileProgram :=
  programFrom interpreterLimit host path content

/-- The variables before a command of `env`, with what follows them. -/
def takeVariables (arguments : List String) : List (String × String) × List String :=
  let isAssignment (text : String) : Bool := text.toList.contains '='
  let given := arguments.takeWhile isAssignment
  (given.map fun text =>
    let (name, value) := Builtin.assignmentOf text
    (name, value.getD ""), arguments.drop given.length)

/-- The words that `xargs` finds in a text. -/
def wordsIn : Nat → List Char → Option (List Char) → List String
  | 0, _, current => (current.map String.ofList).toList
  | _ + 1, [], current => (current.map String.ofList).toList
  | limit + 1, character :: rest, current =>
    if Arithmetic.isSpace character then
      (current.map String.ofList).toList ++ wordsIn limit rest none
    else if character = '\\' then
      wordsIn limit (rest.drop 1) (some (current.getD [] ++ rest.take 1))
    else if character = '"' ∨ character = '\x27' then
      let inside := rest.takeWhile (· ≠ character)
      wordsIn limit (rest.drop (inside.length + 1)) (some (current.getD [] ++ inside))
    else wordsIn limit rest (some (current.getD [] ++ [character]))

/-- The options of `env`. The value of one of them is split into words that stand for more arguments. -/
def optionsOfEnv (arguments : List String) : Except String Options := do
  let spelling : Options.Spelling :=
    { flags := "i0", valued := "uSC", anywhere := false,
      long := [("ignore-environment", 'i'), ("null", '0'), ("unset", 'u'), ("split-string", 'S'),
        ("chdir", 'C')] }
  let options ← Options.read spelling arguments
  match options.value? 'S' with
  | none => pure options
  | some text => do
    let words := wordsIn (text.length + 1) text.toList none
    let further ← Options.read spelling (words ++ options.operands)
    pure { further with given := options.given ++ further.given }

/-- The options of a program that runs another one and does nothing else that can be seen. -/
def spellingOfRunner (program : String) : Options.Spelling :=
  if program = "timeout" then
    { flags := "fpv", valued := "ks", anywhere := false,
      long := [("foreground", 'f'), ("preserve-status", 'p'), ("verbose", 'v'), ("kill-after", 'k'),
        ("signal", 's')] }
  else if program = "nice" then { flags := "", valued := "n", anywhere := false, long := [("adjustment", 'n')] }
  else { flags := "", anywhere := false }

/-- Does something with other variables. -/
def withVariables {α : Type} (visible : List (String × Variable)) (act : Run α) : Run α := do
  let before := (← get).bindings
  modify fun shell => { shell with bindings := visible }
  afterwards act (modify fun shell => { shell with bindings := before })

/-- Lists of so many items. -/
def chunksOf {α : Type} (size : Nat) : Nat → List α → List (List α)
  | 0, _ => []
  | _ + 1, [] => []
  | limit + 1, items => items.take size :: chunksOf size limit (items.drop size)

mutual

/-- Runs a program by its name. The bound is on how often programs name each other. -/
def launch : Nat → String → List String → Run Ending
  | 0, name, _ => missing name false
  | limit + 1, name, arguments => do
    match (← get).programAt name with
    | .error isThere => missing name isThere
    | .ok (path, content) => runFound limit name path content arguments

/-- Runs a program that has been found, which is called by a name. -/
def runFound : Nat → String → Path → List UInt8 → List String → Run Ending
  | 0, name, _, _, _ => missing name false
  | limit + 1, name, path, content, arguments => do
    match programOf (← get).host path content with
    | .ofSystem program => runNamed limit program name arguments
    | .interpreted program interpreter given =>
      runNamed limit program interpreter (given ++ octetsOf path.text :: arguments)
    | .broken => missing name false
    | .plain => runProgram exec name (runShell exec name (octetsOf path.text :: arguments))

/-- Runs a program of the system, which is called by a name. -/
def runNamed : Nat → String → String → List String → Run Ending
  | 0, _, name, _ => missing name false
  | limit + 1, program, name, arguments => do
    if Utility.shells.contains program then
      runProgram exec name (runShell exec name arguments)
    else
      match Utility.table.lookup program with
      | some utility => runUtility utility name arguments
      | none =>
        let call : Call := { name, arguments, input := "", host := (← get).host }
        let refuse (text : String) (status : Nat) : Run Ending := do
          speak (name ++ ": " ++ text ++ "\n")
          pure (.exited status)
        let start (shown : String → String) (program : String) (arguments : List String) :
            Run Ending := do
          match (← get).programIn Host.usualSearch program with
          | .ok (path, content) => runFound limit program path content arguments
          | .error isThere =>
            let reason := if isThere then "Permission denied" else "No such file or directory"
            refuse (shown program ++ ": " ++ reason) (if isThere then 126 else 127)
        match program with
        | "find" => do
          let run (program : String) (arguments : List String) : Run Nat := do
            pure (← start quotedName program arguments).status
          pure (.exited (← Finding.find run call))
        | "env" => do
          match optionsOfEnv arguments with
          | .error text => refuse (text ++ "\n" ++ call.hint) 125
          | .ok options =>
            let (given, rest) := takeVariables options.operands
            let outer ← get
            let kept := outer.bindings.filter fun (key, _) =>
              !(options.given.any fun (letter, value) => letter == 'u' && value == key)
            let kept := if options.has 'i' then [] else kept
            let visible := kept.filter fun (_, found) => found.isExported && found.value.isSome
            let shell := given.foldl (fun shell (key, value) =>
              shell.withVariable key { value := some value, isExported := true })
                { outer with bindings := visible }
            match rest with
            | [] => withVariables shell.bindings (runUtility Utility.printenv name [])
            | program :: rest => withVariables shell.bindings (start quotedName program rest)
        | "xargs" => do
          match Options.read { flags := "rt0x", valued := "nILdPsE", anywhere := false } arguments with
          | .error text => refuse (text ++ "\n" ++ call.hint) 1
          | .ok options =>
            let shell ← get
            let text := (shell.channels.rest? shell.host 0).getD ""
            set { shell with channels := (shell.channels.pass 0 text.length) }
            let lines := (bareLines text).map fun line => line
            let words :=
              if options.has '0' then ((text.splitOn "\x00").filter (· ≠ ""))
              else if options.has 'd' then
                (((text.splitOn ((options.value? 'd').getD "\n")).map fun word =>
                  (word.dropEndWhile (· == '\n')).toString)).filter (· ≠ "")
              else if options.has 'I' then
                (lines.map fun line => (line.dropWhile fun letter => letter == ' ').toString).filter (· ≠ "")
              else wordsIn (text.length + 1) text.toList none
            let (program, fixed) := match options.operands with
              | [] => ("echo", [])
              | program :: fixed => (program, fixed)
            let calls : List (List String) :=
              match options.value? 'I' with
              | some mark => words.map fun word =>
                fixed.map fun argument => word.intercalate (argument.splitOn mark)
              | none =>
                let size := ((options.value? 'n').bind String.toNat?).getD (words.length + 1)
                let chunks := chunksOf (max size 1) (words.length + 1) words
                let chunks := if words.isEmpty && !options.has 'r' then [[]] else chunks
                chunks.map (fixed ++ ·)
            let before := (← get).channels.descriptors
            modify fun shell => { shell with channels := shell.channels.openFor 0 .nowhere }
            let status ← calls.foldlM (fun status arguments => do
              if status = 127 ∨ status = 126 ∨ status = 124 then pure status
              else
                let one := (← start id program arguments).status
                pure (if one = 0 then status else if one = 127 ∨ one = 126 then one
                  else if one = 255 then 124 else 123)) 0
            modify fun shell => { shell with channels := { shell.channels with descriptors := before } }
            pure (.exited status)
        | _ =>
          -- Those that change how a program is run, but not what it does.
          let told (inner : String) : String :=
            (if program = "nice" then "" else "failed to run command ") ++ quotedName inner
          let arguments := arguments.map fun argument =>
            match argument.toList with
            | '-' :: digit :: _ =>
              if program = "nice" ∧ digit.isDigit then "-n" ++ (argument.drop 1).toString else argument
            | _ => argument
          match Options.read (spellingOfRunner program) arguments with
          | .error text => refuse (text ++ "\n" ++ call.hint) 125
          | .ok options =>
            match options.operands.drop (if program = "timeout" then 1 else 0) with
            | [] =>
              if program = "timeout" then do
                speak (call.hint ++ "\n")
                pure (.exited 125)
              else if program = "nice" ∧ !options.has 'n' then do
                let _ ← write 1 "0\n"
                pure (.exited 0)
              else
                let text := if program = "nice" then "a command must be given with an adjustment"
                  else "missing operand"
                refuse (text ++ "\n" ++ call.hint) 125
            | inner :: rest => start told inner rest

end

end

end DecompileServer.Program.Shell

import DecompileServer.Program.Command
import DecompileServer.Program.Starting

/-!
# Running scripts

One step of running a script is defined over a way to run its parts; `Shell.run` ties the knot with a
bound on how deep running can lie in itself. Where the option `e` is set, a failing command that
nothing looks at ends the shell.
-/
namespace DecompileServer.Program.Shell

section

variable (exec : Runner)

/-! ### Commands -/

/-- Ends the shell after a failure, if an option says so and nothing looks at the failure. -/
def checkFailure (isTested : Bool) : Run Unit := do
  let shell ← get
  if shell.isSet 'e' && !isTested && shell.status ≠ 0 then throw .exit

/-- Expands the words of a command after the fields of those before. Assignments among the arguments
of some commands are not split. -/
def expandWords : List Word → List String → Run (List String)
  | [], fields => pure fields
  | word :: rest, fields => do
    let command := (fields.dropWhile (· == "command")).head?
    let more ← match command.any Builtin.assigning.contains, word.assignment? with
      | true, some (name, value) => do
        pure [name ++ "=" ++ (← textOfWord (output exec) true value)]
      | _, _ => fieldsOfWord (output exec) word
    expandWords rest (fields ++ more)

/-- Assigns values one after the other. Gives the names and values. -/
def assignAll (isExported : Bool) : List (String × Word) → Run (List (String × String))
  | [] => pure []
  | (name, word) :: rest => do
    let value ← textOfWord (output exec) true word
    assign name value
    if isExported then
      modify fun shell =>
        match shell.bindings.lookup name with
        | some found => shell.withVariable name { found with isExported := true }
        | none => shell
    pure ((name, value) :: (← assignAll isExported rest))

/-- Shows a command before it is run, if an option says so. It is shown where errors went before the
command's own redirections. -/
def trace (before : List (Nat × Nat)) (assigned : List (String × String)) (fields : List String) :
    Run Unit := do
  let shell ← get
  if shell.isSet 'x' then
    let front := (shell.valueOf? "PS4").getD ""
    let words := (assigned.map fun (name, value) => name ++ "=" ++ value) ++ fields
    let inner := shell.channels.descriptors
    set { shell with channels := { shell.channels with descriptors := before } }
    speak (front ++ " ".intercalate words ++ "\n")
    modify fun shell => { shell with channels := { shell.channels with descriptors := inner } }

/-- Calls a function. -/
def callFunction (isTested : Bool) (body : Script) (arguments : List String) : Run Unit := do
  let outer ← get
  set { outer with arguments, loops := 0, frames := [] :: outer.frames, optionPlace := 0 }
  let restore : Run Unit := modify fun shell =>
    let frame := shell.frames.headD []
    let shell := frame.foldl (fun (shell : Shell) (name, hidden) =>
      match hidden with
      | some found =>
        if name = "-" then { shell with options := (found.value.getD "").toList }
        else shell.withVariable name found
      | none => shell.without name) shell
    { shell with
      arguments := outer.arguments, loops := outer.loops, frames := outer.frames
      optionPlace := outer.optionPlace }
  let act : Run Unit := do
    match ← halting (exec isTested body) with
    | none | some .returned => pure ()
    | some halt => throw halt
  afterwards act restore

/-- Does something for a command of the shell, which speaks by its name. A mistake of one that is not
special is only a failure. -/
def asCommand (name : String) (isSpecial : Bool) (act : Run Nat) : Run Unit := do
  let before := (← get).command
  modify fun shell => { shell with command := some name }
  let act : Run Unit := do leave (← act)
  let restore : Run Unit := modify fun shell => { shell with command := before }
  match ← halting (afterwards act restore) with
  | none => pure ()
  | some .mistake => if isSpecial then throw .mistake else pure ()
  | some halt => throw halt

/-- The words that have a meaning of their own. -/
def isKeyword (name : String) : Bool := Keyword.spellings.any (·.1 == name)

/-- What a name stands for: a text that names it shortly and one that describes it. -/
def described (shell : Shell) (name : String) : Option (String × String) :=
  if isKeyword name then some (name, name ++ " is a shell keyword")
  else if shell.functions.any (·.1 == name) then some (name, name ++ " is a shell function")
  else if Builtin.isKnown name then
    let kind := if specialCommands.contains name then "special shell builtin" else "shell builtin"
    some (name, name ++ " is a " ++ kind)
  else
    match shell.programAt name with
    | .ok (path, _) =>
      let kind := if shell.remembered.contains name then " is a tracked alias for " else " is "
      some (octetsOf path.text, name ++ kind ++ octetsOf path.text)
    | .error _ => none

/-- Shows what names stand for. -/
def describe (isShort : Bool) (names : List String) : Run Nat := do
  names.foldlM (fun status name => do
    let shell ← get
    match shell.described name with
    | some (short, long) => do
      if short.toList.head? = some '/' then remember name
      let _ ← write 1 ((if isShort then short else long) ++ "\n")
      pure status
    | none => do
      if !isShort then
        let _ ← write 1 (name ++ ": not found\n")
      pure 127) 0

/-- The file that a name stands for, without a search in directories if it has a slash. -/
def sourceAt? (shell : Shell) (name : String) : Option Path :=
  if name.toList.contains '/' then some ⟨textOf name⟩
  else
    (((shell.valueOf? "PATH").getD "").toList.splitOn ':').findSome? fun directory =>
      let path := (Path.mk (textOf (String.ofList directory))).join (textOf name)
      if shell.host.isFile path then some path else none

/-- Runs the commands of a file in this shell. -/
def runFile (arguments : List String) : Run Nat := do
  match arguments with
  | [] => pure 0
  | name :: _ =>
    let shell ← get
    match shell.sourceAt? name with
    | none => fail (name ++ ": not found")
    | some path =>
      match shell.host.read path with
      | .error fault =>
        if name = nullPath then pure 0
        else fail ("cannot open " ++ name ++ ": " ++ openingFault false fault)
      | .ok content => do
        modify fun shell => { shell with command := some (octetsOf path.text), status := 0 }
        match ← halting (runText exec false (String.ofList (ofOctets content))) with
        | none | some .returned => pure (← get).status
        | some halt => throw halt

/-- Lets a program take the place of the shell. -/
def replace (arguments : List String) : Run Nat := do
  match arguments with
  | [] => pure 0
  | name :: rest => do
    note (← launch exec depthLimit name rest)
    match (← get).programAt name with
    | .ok _ => modify fun shell => { shell with traps := [] }
    | .error _ => pure ()
    throw .exit

/-- Runs a command that is made of fields. The bound is on how often one command names another. -/
def runFields (isTested : Bool) : Nat → Bool → List String → Run Unit
  | 0, _, _ => pure ()
  | _, _, [] => pure ()
  | limit + 1, isNamed, name :: arguments => do
    let shell ← get
    match (if isNamed then none else shell.functions.lookup name) with
    | some body => callFunction exec isTested body arguments
    | none =>
      let isSpecial := specialCommands.contains name && !isNamed
      match Builtin.table.lookup name with
      | some builtin => asCommand name isSpecial (builtin arguments)
      | none =>
        match name with
        | "eval" =>
          asCommand name isSpecial do
            let text := " ".intercalate (if arguments.head? = some "--" then arguments.drop 1 else arguments)
            leave 0
            runText exec isTested text
            pure (← get).status
        | "." =>
          asCommand name isSpecial
            (runFile exec (if arguments.head? = some "--" then arguments.drop 1 else arguments))
        | "exec" =>
          asCommand name isSpecial
            (replace exec (if arguments.head? = some "--" then arguments.drop 1 else arguments))
        | "type" => asCommand name false (describe false arguments)
        | "hash" =>
          asCommand name false do
            arguments.foldlM (fun status word => do
              if word.toList.head? = some '-' then do
                modify fun shell => { shell with remembered := [] }
                pure status
              else
                match (← get).programAt word with
                | .ok _ => do
                  remember word
                  pure status
                | .error _ => do
                  complain (word ++ ": not found")
                  pure 1) 0
        | "command" =>
          let letters := match arguments.head? with
            | some option => if option.toList.head? = some '-' ∧ option ≠ "--" then option.toList.drop 1 else []
            | none => []
          if let some letter := letters.find? fun letter => !(['p', 'v', 'V'].contains letter) then
            asCommand name false (fail ("Illegal option -" ++ letter.toString))
          else
            let rest := match arguments with
              | option :: rest => if option.toList.head? = some '-' then rest else arguments
              | [] => []
            if letters.contains 'v' then leave (← describe true rest)
            else if letters.contains 'V' then leave (← describe false rest)
            else if rest.isEmpty then leave 0
            else runFields isTested limit true rest
        | name => do
          if (shell.programAt name).toBool then remember name
          note (← launch exec depthLimit name arguments)

/-- Runs a simple command. -/
def runSimple (isTested : Bool) (assignments : List (String × Word)) (words : List Word)
    (redirections : List Redirection) : Run Unit := do
  modify fun shell => { shell with substituted := 0 }
  let fields ← expandWords exec words []
  let targets ← redirections.mapM (targetOf (output exec))
  let before := (← get).channels.descriptors
  let name := fields.headD ""
  let isFunction := (← get).functions.any (·.1 == name)
  let isSpecial := specialCommands.contains name && !isFunction
  let restore : Run Unit := modify fun shell =>
    { shell with channels := { shell.channels with descriptors := before } }
  let act : Run Unit := do
    if ← redirectAll targets then
      let outer ← get
      let isLasting := fields.isEmpty || isSpecial
      let assigned ← assignAll exec (!isLasting) assignments
      trace before assigned fields
      if fields.isEmpty then leave (← get).substituted
      else
        let unassign : Run Unit := do
          if !isLasting then
            modify fun shell => assigned.foldl (fun (shell : Shell) (name, _) =>
              match outer.bindings.lookup name with
              | some found => shell.withVariable name found
              | none => shell.without name) shell
        afterwards (runFields exec isTested depthLimit false fields) unassign
    else
      leave 2
      if isSpecial then throw .mistake
  if fields = ["exec"] then act else afterwards act restore

/-! ### Compound commands -/

/-- Runs the parts of a pipeline, each of which reads what the one before has written. -/
def runPipeline (isTested : Bool) : List Script → Run Unit
  | [] => pure ()
  | [last] => subshell exec (exec isTested last)
  | part :: rest => do
    let text ← captured exec (subshell exec (exec isTested part))
    let before := (← get).channels.descriptors
    modify fun shell => { shell with channels := shell.channels.openFor 0 (.source text) }
    afterwards (runPipeline isTested rest) (modify fun shell =>
      { shell with channels := { shell.channels with descriptors := before } })

/-- How a part of a loop ends. -/
inductive Lap where
  /-- The loop goes on behind the part. -/
  | through
  /-- The loop begins anew. -/
  | again
  /-- The loop ends. -/
  | over
  deriving DecidableEq

/-- Runs a part of a loop. -/
def lap (act : Run Unit) : Run Lap := do
  match ← halting act with
  | none => pure .through
  | some (.broken loops) => if loops ≤ 1 then pure .over else throw (.broken (loops - 1))
  | some (.continued loops) => if loops ≤ 1 then pure .again else throw (.continued (loops - 1))
  | some halt => throw halt

/-- Runs a loop, which is counted while it runs. -/
def counted (act : Run Nat) : Run Unit := do
  modify fun shell => { shell with loops := shell.loops + 1 }
  let status ← afterwards act (modify fun shell => { shell with loops := shell.loops - 1 })
  leave status

/-- Repeats a body as long as a test succeeds, or fails if `isUntil`. Gives the status of the last
body. -/
def repeated (isTested isUntil : Bool) (test body : Script) : Nat → Nat → Run Nat
  | 0, _ => throw (.killed 9)
  | limit + 1, status => do
    match ← lap (exec true test) with
    | .over => pure 0
    | .again => repeated isTested isUntil test body limit status
    | .through =>
      if ((← get).status == 0) == isUntil then pure status
      else
        match ← lap (exec isTested body) with
        | .over => pure 0
        | .again => repeated isTested isUntil test body limit 0
        | .through => repeated isTested isUntil test body limit (← get).status

/-- Runs a body for each of some values. -/
def runForEach (isTested : Bool) (name : String) (body : Script) : List String → Nat → Run Nat
  | [], status => pure status
  | value :: rest, _ => do
    assign name value
    match ← lap (exec isTested body) with
    | .over => pure 0
    | .again => runForEach isTested name body rest 0
    | .through => runForEach isTested name body rest (← get).status

/-- The body of the first branch of which a pattern matches a text. -/
def branchFor (text : String) : List (List Word × Option Script) → Run (Option (Option Script))
  | [] => pure none
  | (patterns, body) :: rest => do
    let matching ← patterns.foldlM (fun isFound word => do
      if isFound then pure true
      else pure ((← patternOfWord (output exec) word).holds text.toList)) false
    if matching then pure (some body) else branchFor text rest

/-- The number of times that a loop may run. -/
def loopLimit : Nat := 1000000

/-- Runs a script, its parts being run by `exec`. -/
def step (isTested : Bool) (script : Script) : Run Unit := do
  if (← get).isSet 'n' then return
  handleSignals exec
  match script with
  | .simple line assignments words redirections => do
    modify fun shell => { shell with line }
    runSimple exec isTested assignments words redirections
    handleSignals exec
    checkFailure isTested
  | .redirected line body redirections => do
    modify fun shell => { shell with line }
    let targets ← redirections.mapM (targetOf (output exec))
    keepingDescriptors do
      if ← redirectAll targets then exec isTested body
      else
        leave 2
        checkFailure isTested
  | .pipeline parts => do
    runPipeline exec isTested parts
    checkFailure isTested
  | .negated body => do
    exec true body
    leave (if (← get).status = 0 then 1 else 0)
  | .both first second => do
    exec true first
    if (← get).status = 0 then exec isTested second
  | .either first second => do
    exec true first
    if (← get).status ≠ 0 then exec isTested second
  | .sequence first second => do
    exec isTested first
    exec isTested second
  | .background body => do
    let before := (← get).channels.descriptors
    modify fun shell => { shell with channels := shell.channels.openFor 0 .nowhere }
    subshell exec (exec false body)
    modify fun shell =>
      { shell with
        channels := { shell.channels with descriptors := before }
        started := shell.started + 1
        background := some (shell.started + 1)
        jobs := (shell.started + 1, shell.status) :: shell.jobs
        status := 0 }
  | .conditional test consequence alternative => do
    exec true test
    if (← get).status = 0 then exec isTested consequence
    else
      match alternative with
      | some other => exec isTested other
      | none => leave 0
  | .loop isUntil test body => counted (repeated exec isTested isUntil test body loopLimit 0)
  | .forEach line name words body => do
    modify fun shell => { shell with line }
    let values ← match words with
      | some words => do pure (← words.mapM (fieldsOfWord (output exec))).flatten
      | none => pure (← get).arguments
    counted (runForEach exec isTested name body values 0)
  | .select line subject branches => do
    modify fun shell => { shell with line }
    let text ← textOfWord (output exec) false subject
    match ← branchFor exec text branches with
    | some (some body) => exec isTested body
    | _ => leave 0
  | .subshell line body => do
    modify fun shell => { shell with line }
    subshell exec (exec isTested body)
    checkFailure isTested
  | .function name body => do
    modify fun shell =>
      { shell with
        functions := (name, body) :: shell.functions.filter fun entry => entry.1 ≠ name
        status := 0 }

end

/-- Runs a script, with a bound on how deep running can lie in itself. -/
def run : Nat → Runner
  | 0, _, _ => throw (.killed 9)
  | limit + 1, isTested, script => step (run limit) isTested script

/-- The bound on how deep running can lie in itself. -/
def runLimit : Nat := 100000

/-- The number of the process that is started first. -/
def firstProcess : Nat := 1000

/-- Runs a command. Nothing stands in its input, and its output and error output are kept. -/
def launched (host : Host) (command : Command) : Option (Outcome × Host) := do
  let (path, content) ← host.program? command.program
  let arguments := command.arguments.map octetsOf
  let name := octetsOf command.program
  let channels : Channels :=
    { table := #[.nowhere, .sink "", .sink ""], descriptors := [(0, 0), (1, 1), (2, 2)] }
  let shell := beginning host name channels firstProcess
  let exec := run runLimit
  let body ← match programOf host path content with
    | .ofSystem program => some (runNamed exec depthLimit program name arguments)
    | .interpreted program interpreter given =>
      some (runNamed exec depthLimit program interpreter (given ++ octetsOf path.text :: arguments))
    | .broken | .plain => none
  let (result, last) := (body.run shell : _ × Shell)
  let written (index : Nat) : List UInt8 := toOctets (last.channels.writtenTo index).toList
  let succeeded := match result with
    | .ok ending => ending == .exited 0
    | .error _ => false
  some (⟨succeeded, written 1, written 2⟩, { host with tree := last.host.tree })

end DecompileServer.Program.Shell

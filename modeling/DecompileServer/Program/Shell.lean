import DecompileServer.Program.Script
import DecompileServer.Program.Channel

/-!
# The state of a shell

A shell has variables, functions, options and channels, and the status of the last command. Running a
command changes them, and may halt what is being run: a loop, a function, or the shell itself. All
texts are octets.
-/
namespace DecompileServer.Program

/-- A variable. -/
structure Variable where
  /-- The value; a variable may have none. -/
  value : Option String := none
  /-- Whether programs see it. -/
  isExported : Bool := false
  /-- Whether it keeps its value. -/
  isReadOnly : Bool := false
  deriving DecidableEq, Repr

/-- Why a script does not go on. -/
inductive Halt where
  /-- The shell ends. -/
  | exit
  /-- The shell ends, because of a mistake. -/
  | mistake
  /-- A function or a file ends. -/
  | returned
  /-- So many loops end. -/
  | broken (loops : Nat)
  /-- So many loops end but the last one, which goes on. -/
  | continued (loops : Nat)
  /-- The shell is killed by the signal of a number. -/
  | killed (signal : Nat)
  deriving DecidableEq, Repr

/-- A shell. -/
structure Shell where
  /-- The host. -/
  host : Host
  /-- The name of the shell or of its script. -/
  name : String
  /-- The arguments. -/
  arguments : List String := []
  /-- The variables by their names. -/
  bindings : List (String × Variable) := []
  /-- The functions by their names. -/
  functions : List (String × Script) := []
  /-- What local variables hide, for each function that is being run. -/
  frames : List (List (String × Option Variable)) := []
  /-- The letters of the options that are set. -/
  options : List Char := []
  /-- What is done at signals and at the end. -/
  traps : List (String × String) := []
  /-- The signals that have come and wait to be handled. -/
  signals : List String := []
  /-- The channels. -/
  channels : Channels
  /-- The status of the last command. -/
  status : Nat := 0
  /-- The status of the last script whose output was put into a word of the command. -/
  substituted : Nat := 0
  /-- The line of the command. -/
  line : Nat := 1
  /-- The name of the command that speaks, if it belongs to the shell. -/
  command : Option String := none
  /-- The names of programs that have been found in directories. -/
  remembered : List String := []
  /-- The number of loops that are being run. -/
  loops : Nat := 0
  /-- The number of the process. -/
  process : Nat
  /-- The number of processes that have been started. -/
  started : Nat
  /-- The last process that was not waited for. -/
  background : Option Nat := none
  /-- The processes that were not waited for, with what they have left. -/
  jobs : List (Nat × Nat) := []
  /-- The status with which the shell ends, if it is ending. -/
  ending : Option Nat := none
  /-- The place of `getopts` in an argument. -/
  optionPlace : Nat := 0
  /-- The mask of modes. -/
  mask : Nat := 18

/-- What running does: it changes the shell and may be halted. -/
abbrev Run := ExceptT Halt (StateM Shell)

/-- A way to run scripts. The flag says whether a failure is looked at, so that it ends nothing. -/
abbrev Runner := Bool → Script → Run Unit

namespace Shell

/-! ### Variables -/

/-- What separates fields where no variable says so. -/
def usualSeparators : String := " \t\n"

/-- The value of a variable. -/
def valueOf? (shell : Shell) (name : String) : Option String :=
  (shell.bindings.lookup name).bind (·.value)

/-- Replaces or adds a variable. -/
def withVariable (shell : Shell) (name : String) (value : Variable) : Shell :=
  let others := shell.bindings.filter fun entry => entry.1 ≠ name
  { shell with bindings := others ++ [(name, value)] }

/-- Removes a variable. -/
def without (shell : Shell) (name : String) : Shell :=
  { shell with bindings := shell.bindings.filter fun entry => entry.1 ≠ name }

/-- The characters that separate fields. -/
def separators (shell : Shell) : String := (shell.valueOf? "IFS").getD usualSeparators

/-- Whether an option is set. -/
def isSet (shell : Shell) (letter : Char) : Bool := shell.options.contains letter

/-- The variables that programs see. -/
def environment (shell : Shell) : List (String × String) :=
  shell.bindings.filterMap fun (name, found) =>
    match found.isExported, found.value with
    | true, some value => some (textOf name, textOf value)
    | _, _ => none

/-- The host as programs see it. -/
def hostForPrograms (shell : Shell) : Host :=
  { shell.host with environment := shell.environment }

/-- The directories that programs are searched for in if no variable says so. -/
def usualPath : String := "/usr/local/sbin:/usr/local/bin:/usr/sbin:/usr/bin:/sbin:/bin"

/-- The variables of a shell that begins on a host. -/
def firstVariables (host : Host) : List (String × Variable) :=
  let given := host.environment.filterMap fun (name, value) =>
    if isName name then some (octetsOf name, { value := some (octetsOf value), isExported := true })
    else none
  let known (name : String) : Bool := given.any (·.1 == name)
  let own : List (String × Variable) :=
    [("IFS", { value := some usualSeparators }), ("OPTIND", { value := some "1" }),
      ("PS1", { value := some "# " }), ("PS2", { value := some "> " }), ("PS4", { value := some "+ " }),
      ("PATH", { value := some usualPath }), ("PPID", { value := some "1" })]
  let own := own.filter fun (name, _) => !(known name && (name == "PATH" || name == "PS4"))
  let given := given.filter fun (name, _) => !(own.any (·.1 == name)) && name ≠ "PWD"
  given ++ own ++
    [("PWD", { value := some (octetsOf host.workingPath.text), isExported := true })]

/-! ### Speaking -/

/-- Writes to a descriptor. Gives whether that was possible. -/
def write (descriptor : Nat) (text : String) : Run Bool :=
  modifyGet fun shell =>
    if text = "" then (true, shell)
    else
      match shell.channels.write? shell.host descriptor text with
      | some (channels, host) => (true, { shell with channels, host })
      | none => (false, shell)

/-- Speaks on the error output. -/
def speak (text : String) : Run Unit := do
  let _ ← write 2 text

/-- The beginning of a message: the name, the line and the command that speaks. -/
def preamble (shell : Shell) : String :=
  shell.name ++ ": " ++ toString shell.line ++ ": " ++
    match shell.command with
    | some command => command ++ ": "
    | none => ""

/-- Says what is wrong. -/
def complain (text : String) : Run Unit := do
  let shell ← get
  speak (shell.preamble ++ text ++ "\n")

/-- Sets the status. -/
def leave (status : Nat) : Run Unit :=
  modify fun shell => { shell with status }

/-- Says what is wrong and ends what is being run. -/
def fail {α : Type} (text : String) : Run α := do
  complain text
  leave 2
  throw .mistake

/-- Sets a variable. -/
def assign (name value : String) : Run Unit := do
  let shell ← get
  let found := (shell.bindings.lookup name).getD {}
  if found.isReadOnly then fail (name ++ ": is read only")
  else
    let found := { found with
      value := some value
      isExported := found.isExported || shell.isSet 'a' }
    set (shell.withVariable name found)
    if name = "OPTIND" then modify fun shell => { shell with optionPlace := 0 }
    if name = "PATH" then modify fun shell => { shell with remembered := [] }

/-- Does something and puts back where descriptors lead. -/
def keepingDescriptors {α : Type} (act : Run α) : Run α := do
  let before := (← get).channels.descriptors
  let restore : Run Unit := modify fun shell =>
    { shell with channels := { shell.channels with descriptors := before } }
  try
    let result ← act
    restore
    pure result
  catch halt =>
    restore
    throw halt

end Shell

end DecompileServer.Program

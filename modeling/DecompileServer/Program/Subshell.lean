import DecompileServer.Program.Grammar
import DecompileServer.Program.Shell
import DecompileServer.Program.Signal

/-!
# Subshells

A subshell works on the same files and channels, but what it does to variables, functions, traps and
the working directory is undone. What is to be done at the end of a shell is done however it ends,
unless a signal kills it; such a signal reaches the shell around a subshell too.
-/
namespace DecompileServer.Program.Shell

/-- Does something and gives why it was halted, if it was. -/
def halting (act : Run Unit) : Run (Option Halt) := do
  try
    act
    pure none
  catch halt => pure (some halt)

/-- Does something, and then something else whatever happens. -/
def afterwards {α : Type} (act : Run α) (last : Run Unit) : Run α := do
  try
    let result ← act
    last
    pure result
  catch halt =>
    last
    throw halt

section

variable (exec : Runner)

/-- Runs the commands of a text, in which lines are counted anew. -/
def runText (isTested : Bool) (text : String) : Run Unit := do
  let reading := Script.read text
  for script in reading.commands do
    exec isTested script
  if let some fault := reading.fault then
    modify fun shell => { shell with line := fault.line }
    fail ("Syntax error: " ++ fault.reason.message)

/-- Does what is to be done at the signals that have come. -/
def handleSignals : Run Unit := do
  let names := (← get).signals
  modify fun shell => { shell with signals := [] }
  for name in names do
    let shell ← get
    if let some action := shell.traps.lookup name then
      runText exec false action
      leave shell.status

/-- Ends a shell: what is to be done at its end is done. -/
def finish (halt : Option Halt) : Run Unit := do
  match halt with
  | some (.killed _) => pure ()
  | _ =>
    let shell ← get
    if let some action := shell.traps.lookup Signal.exit then
      set { shell with
        traps := shell.traps.filter fun entry => entry.1 ≠ Signal.exit
        ending := some shell.status }
      match ← halting (runText exec false action) with
      | some .exit | some .mistake => pure ()
      | _ => leave shell.status

/-- Lets a killed shell halt the shell around it. -/
def spread (halt : Option Halt) : Run Unit := do
  match halt with
  | some (.killed signal) => throw (.killed signal)
  | _ => pure ()

/-- Runs a subshell. -/
def subshell (body : Run Unit) : Run Unit := do
  let outer ← get
  set { outer with
    traps := outer.traps.filter fun entry => entry.2 = ""
    ending := none }
  let halt ← halting body
  finish exec halt
  let inner ← get
  set { outer with
    host := { inner.host with workingDirectory := outer.host.workingDirectory }
    channels := { inner.channels with descriptors := outer.channels.descriptors }
    status := inner.status % 256
    signals := inner.signals
    started := inner.started }
  spread halt

/-- Runs a subshell whose output is kept. -/
def captured (body : Run Unit) : Run String := do
  let shell ← get
  let before := shell.channels.descriptors
  let index := shell.channels.table.size
  set { shell with channels := shell.channels.openFor 1 (.sink "") }
  afterwards (subshell exec body)
    (modify fun shell => { shell with channels := { shell.channels with descriptors := before } })
  pure ((← get).channels.writtenTo index)

/-- The output of a script as it is put into a word: without the ends of its last lines. -/
def output (script : Option Script) : Run String := do
  match script with
  | none => pure ""
  | some script =>
    let status := (← get).status
    let text ← captured exec (exec false script)
    modify fun shell => { shell with substituted := shell.status, status }
    let visible := text.toList.filter (· ≠ '\x00')
    pure (String.ofList ((visible.reverse.dropWhile (· == '\n')).reverse))

end

end DecompileServer.Program.Shell

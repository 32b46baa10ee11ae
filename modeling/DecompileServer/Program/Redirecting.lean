import DecompileServer.Program.Expansion

/-!
# Redirecting

Redirections are made from the left; the first that cannot be made ends the command. The names of
files are expanded before anything is opened.
-/
namespace DecompileServer.Program.Shell

open Disk (Fault)

/-- A redirection whose words are expanded. -/
inductive Target where
  /-- A file. -/
  | file (descriptor : Nat) (opening : Opening) (name : String)
  /-- Where another descriptor leads, or nowhere. -/
  | duplicate (descriptor : Nat) (source : Option Nat)
  /-- A text. -/
  | document (descriptor : Nat) (text : String)

/-- The wording of why a file cannot be opened. -/
def openingFault (isCreated : Bool) (fault : Fault) : String :=
  if fault = .missing ∨ fault = .notDirectory then
    if isCreated then "Directory nonexistent" else "No such file"
  else reasonOf fault

/-- The descriptor that a path stands for. -/
def descriptorAt? (path : String) : Option Nat :=
  match path with
  | "/dev/stdin" => some 0
  | "/dev/stdout" => some 1
  | "/dev/stderr" => some 2
  | path => if path.startsWith "/dev/fd/" then (path.drop 8).toString.toNat? else none

/-- Opens a file for a descriptor. -/
def openFile (descriptor : Nat) (opening : Opening) (name : String) : Run Bool := do
  let shell ← get
  let path : Path := ⟨textOf name⟩
  let lead (channel : Channel) (host : Host) : Run Bool := do
    modify fun shell => { shell with channels := shell.channels.openFor descriptor channel, host }
    pure true
  let refuse (isCreated : Bool) (fault : Fault) : Run Bool := do
    complain ("cannot " ++ (if isCreated then "create " else "open ") ++ name ++ ": " ++
      openingFault isCreated fault)
    pure false
  if name = nullPath then lead .nowhere shell.host
  else
    match descriptorAt? name with
    | some source =>
      match shell.channels.at? source with
      | some (index, _) => do
        modify fun shell => { shell with channels := shell.channels.lead descriptor (some index) }
        pure true
      | none => refuse (opening ≠ .read) .missing
    | none =>
      if opening = .read then
        match shell.host.nodeAt path, shell.host.locate path with
        | .ok .directory, _ => lead .nowhere shell.host
        | .ok _, .ok location => lead (.file location 0 .read) shell.host
        | .error fault, _ | _, .error fault => refuse false fault
      else if opening = .write && shell.isSet 'C' && shell.host.isFile path then refuse true .present
      else
        let isNew := opening = .write || opening = .overwrite
        let kept := if isNew then [] else (shell.host.read path).toOption.getD []
        match shell.host.write path kept with
        | .error fault => refuse true fault
        | .ok host =>
          match host.locate path with
          | .ok location => lead (.file location 0 opening) host
          | .error fault => refuse true fault

/-- Makes a redirection. Gives whether that was possible. -/
def redirect : Target → Run Bool
  | .file descriptor opening name => openFile descriptor opening name
  | .duplicate descriptor none => do
    modify fun shell => { shell with channels := shell.channels.lead descriptor none }
    pure true
  | .duplicate descriptor (some source) => do
    match (← get).channels.at? source with
    | some (index, _) => do
      modify fun shell => { shell with channels := shell.channels.lead descriptor (some index) }
      pure true
    | none => do
      complain (toString source ++ ": Bad file descriptor")
      pure false
  | .document descriptor text => do
    modify fun shell => { shell with channels := shell.channels.openFor descriptor (.source text) }
    pure true

/-- Makes redirections up to the first that cannot be made. -/
def redirectAll : List Target → Run Bool
  | [] => pure true
  | target :: rest => do
    if ← redirect target then redirectAll rest else pure false

/-- Ends what is being run because a descriptor is none. The script has been read up to the next line
then. -/
def badDescriptor {α : Type} : Run α := do
  modify fun shell => { shell with line := shell.line + 1 }
  fail "Syntax error: Bad fd number"

/-- Expands the words of a redirection. -/
def targetOf (output : Option Script → Run String) : Redirection → Run Target
  | .file descriptor opening name => do
    pure (.file descriptor opening (← textOfWord output false name))
  | .document descriptor body => do
    pure (.document descriptor (Fragment.text (← expandParts output depthLimit false false body)))
  | .duplicate descriptor source => do
    let text ← textOfWord output false source
    if text = "-" then pure (.duplicate descriptor none)
    else
      match text.toList with
      | [digit] =>
        if digit.isDigit then pure (.duplicate descriptor (some (digit.toNat - 48)))
        else badDescriptor
      | _ => badDescriptor

end DecompileServer.Program.Shell

import DecompileServer.Log.Level
import DecompileServer.Path

/-!
# Arguments

The command line names a file with the configuration, if any, and choices that begin with a hyphen.
Short choices may share one hyphen. After a double hyphen everything is a file name. A question for
the version or for help is answered as soon as it is met, unless there was a mistake before it.
-/
namespace DecompileServer.CommandLine

/-- What the arguments say. -/
structure Arguments where
  /-- The file with the configuration. -/
  config : Option Path := none
  /-- Whether HTTP is wanted. -/
  http : Bool := false
  /-- The port for HTTP. -/
  port : Option UInt16 := none
  /-- The archive of the external program. -/
  archive : Option Path := none
  /-- How often a more verbose log is asked for. -/
  verbosity : Nat := 0
  /-- Whether the log is to hold faults only. -/
  quiet : Bool := false
  deriving DecidableEq, Repr

/-- Why the arguments do not start the server. -/
inductive Stop where
  /-- The version is asked for. -/
  | version
  /-- Help is asked for. -/
  | help
  /-- The arguments make no sense. -/
  | mistake
  deriving DecidableEq, Repr

/-- The integer that a text stands for: decimal digits, with a sign in front or without. -/
def integerOfText? (text : String) : Option Int :=
  let (negative, digits) :=
    match text.toList with
    | '-' :: rest => (true, rest)
    | '+' :: rest => (false, rest)
    | characters => (false, characters)
  if digits.isEmpty || !digits.all Char.isDigit then none
  else
    let value := digits.foldl (fun (value : Int) digit => value * 10 + (digit.toNat - 48 : Nat)) 0
    some (if negative then -value else value)

/-- The port that a text names. -/
def portOf (text : String) : Except Stop UInt16 :=
  match integerOfText? text with
  | some value =>
    if 0 ≤ value ∧ value < UInt16.size then .ok (UInt16.ofNat value.toNat) else .error .mistake
  | none => .error .mistake

/-- The path that a text names. -/
def pathOf (text : String) : Except Stop Path :=
  if text = "" then .error .mistake else .ok ⟨text⟩

/-- The choices that have a value. -/
inductive Setting where
  /-- The port. -/
  | port
  /-- The archive. -/
  | archive
  deriving DecidableEq, Repr

/-- The setting of a name. -/
def Setting.ofName? (name : String) : Option Setting :=
  if name = "port" then some .port else if name = "cfr" then some .archive else none

namespace Arguments

/-- Gives a setting its value, which may be done once. -/
def set (arguments : Arguments) (setting : Setting) (value : String) : Except Stop Arguments := do
  match setting with
  | .port =>
    if arguments.port.isSome then throw .mistake
    let port ← portOf value
    pure { arguments with port := some port }
  | .archive =>
    if arguments.archive.isSome then throw .mistake
    let archive ← pathOf value
    pure { arguments with archive := some archive }

/-- Takes a file name, of which there is one at most. -/
def place (arguments : Arguments) (text : String) : Except Stop Arguments := do
  if arguments.config.isSome then throw .mistake
  let config ← pathOf text
  pure { arguments with config := some config }

/-- Makes a choice that has no value. -/
def choose (arguments : Arguments) (name : String) : Except Stop Arguments :=
  match name with
  | "http" => if arguments.http then .error .mistake else .ok { arguments with http := true }
  | "quiet" => if arguments.quiet then .error .mistake else .ok { arguments with quiet := true }
  | "verbose" => .ok { arguments with verbosity := arguments.verbosity + 1 }
  | "version" => .error .version
  | "help" => .error .help
  | _ => .error .mistake

/-- The name of a short choice. -/
def longName : Char → String
  | 'v' => "verbose"
  | 'q' => "quiet"
  | 'V' => "version"
  | 'h' => "help"
  | _ => ""

/-- The name and the value of a choice that is written in full. -/
def splitChoice (characters : List Char) : String × Option String :=
  let name := String.ofList (characters.takeWhile (· ≠ '='))
  match characters.dropWhile (· ≠ '=') with
  | [] => (name, none)
  | _ :: value => (name, some (String.ofList value))

/-- Whether an argument can be the value of the choice before it. -/
def canBeValue (text : String) : Bool :=
  match text.toList with
  | ['-'] => true
  | '-' :: _ => false
  | _ => true

/-- Reads arguments after those that have been read. -/
def readFrom (arguments : Arguments) : List String → Except Stop Arguments
  | [] => .ok arguments
  | text :: rest =>
    match text.toList with
    | ['-', '-'] => rest.foldlM place arguments
    | '-' :: '-' :: characters =>
      let (name, value) := splitChoice characters
      match Setting.ofName? name, value, rest with
      | some setting, some value, rest => do
        let arguments ← arguments.set setting value
        arguments.readFrom rest
      | some setting, none, next :: rest => do
        if !canBeValue next then throw .mistake
        let arguments ← arguments.set setting next
        arguments.readFrom rest
      | some _, none, [] => .error .mistake
      | none, some _, _ => .error .mistake
      | none, none, rest => do
        let arguments ← arguments.choose name
        arguments.readFrom rest
    | '-' :: first :: others => do
      let arguments ← (first :: others).foldlM (fun arguments short =>
        arguments.choose (longName short)) arguments
      arguments.readFrom rest
    | _ => do
      let arguments ← arguments.place text
      arguments.readFrom rest

/-- Reads arguments. -/
def read (arguments : List String) : Except Stop Arguments :=
  readFrom {} arguments

/-- The level of the log, if the configuration names the given one. -/
def level (arguments : Arguments) (configured : String) : Level :=
  if arguments.quiet then .error
  else
    match arguments.verbosity with
    | 0 => (Level.ofName? configured).getD .warn
    | 1 => .info
    | 2 => .debug
    | _ => .trace

end Arguments

end DecompileServer.CommandLine

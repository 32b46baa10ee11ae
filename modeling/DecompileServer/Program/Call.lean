import DecompileServer.Disk.Listing
import DecompileServer.Program.Octets

/-!
# Calls of programs

A program is called with arguments and an input and leaves an output, complaints, a status and the
host as it is then. Arguments, input and output are octets. Options begin with a dash; several
letters may stand behind one dash, and a letter may take the rest or the next argument as its value.
-/
namespace DecompileServer.Program

/-- A call of a program. -/
structure Call where
  /-- The name by which the program is called. -/
  name : String
  /-- The arguments. -/
  arguments : List String
  /-- The input. -/
  input : String
  /-- Whether the input is a file. -/
  readsFile : Bool := false
  /-- The host. -/
  host : Host

/-- What a program leaves. -/
structure Written where
  /-- The output. -/
  output : String := ""
  /-- The error output. -/
  errors : String := ""
  /-- The status. -/
  status : Nat := 0
  /-- Whether the input has been read. -/
  readsInput : Bool := false
  /-- The host. -/
  host : Host

namespace Written

/-- Adds to the output. -/
def say (written : Written) (text : String) : Written :=
  { written with output := written.output ++ text }

/-- Adds a complaint, which makes the program fail. -/
def complain (written : Written) (call : Call) (text : String) (status : Nat) : Written :=
  { written with errors := written.errors ++ call.name ++ ": " ++ text ++ "\n", status }

end Written

/-- The wording of a fault of the disk. -/
def reasonOf (fault : Disk.Fault) : String :=
  match fault with
  | .missing => "No such file or directory"
  | .present => "File exists"
  | .notDirectory => "Not a directory"
  | .isDirectory => "Is a directory"
  | .nameTooLong => "File name too long"
  | .holdsNul => "Invalid argument"
  | .denied => "Permission denied"
  | .device => "Input/output error"

/-- The path of a file that holds nothing and keeps nothing. -/
def nullPath : String := "/dev/null"

/-- The octets of the file at a path. -/
def octetsAt (host : Host) (path : String) : Except Disk.Fault String :=
  if path = nullPath then .ok ""
  else (host.read ⟨textOf path⟩).map fun bytes => String.ofList (ofOctets bytes)

/-- Writes octets to the file at a path. -/
def writeOctets (host : Host) (path content : String) : Except Disk.Fault Host :=
  if path = nullPath then .ok host else host.write ⟨textOf path⟩ (toOctets content.toList)

/-- A text between quotes. -/
def quotedName (text : String) : String := "'" ++ text ++ "'"

/-- Whether an operand stands for the input. -/
def isInput (operand : String) : Bool := operand == "-" || operand == "/dev/stdin"

namespace Call

/-- What a program leaves that does nothing. -/
def nothing (call : Call) : Written := { host := call.host }

/-- The octets of an operand. -/
def contentOf (call : Call) (operand : String) : Except Disk.Fault String :=
  if isInput operand then .ok call.input else octetsAt call.host operand

/-- The line that leads to the help. -/
def hint (call : Call) : String :=
  "Try '" ++ call.name ++ " --help' for more information."

/-- What a program leaves that is called in a wrong way. -/
def misused (call : Call) (text : String) (status : Nat) : Written :=
  call.nothing.complain call (text ++ "\n" ++ call.hint) status

end Call

/-- Options and operands. -/
structure Options where
  /-- The letters of the options with their values, in order. -/
  given : List (Char × String) := []
  /-- The operands, in order. -/
  operands : List String := []

namespace Options

/-- Whether an option is given. -/
def has (options : Options) (letter : Char) : Bool :=
  options.given.any (·.1 == letter)

/-- The last value of an option. -/
def value? (options : Options) (letter : Char) : Option String :=
  (options.given.reverse.lookup letter)

/-- How the options of a program are spelled. -/
structure Spelling where
  /-- The letters of options without values. -/
  flags : String
  /-- The letters of options with values. -/
  valued : String := ""
  /-- The long names of options. -/
  long : List (String × Char) := []
  /-- Whether options may follow operands. -/
  anywhere : Bool := true

/-- Takes the letters behind a dash, with the arguments that follow. -/
def letters (spelling : Spelling) : List Char → List String → Options →
    Except String (Options × List String)
  | [], rest, options => .ok (options, rest)
  | letter :: further, rest, options =>
    if spelling.flags.toList.contains letter then
      letters spelling further rest { options with given := options.given ++ [(letter, "")] }
    else if spelling.valued.toList.contains letter then
      match further, rest with
      | [], [] => .error ("option requires an argument -- '" ++ letter.toString ++ "'")
      | [], value :: rest => .ok ({ options with given := options.given ++ [(letter, value)] }, rest)
      | further, rest =>
        .ok ({ options with given := options.given ++ [(letter, String.ofList further)] }, rest)
    else .error ("invalid option -- '" ++ letter.toString ++ "'")

/-- Takes a long option with its value, if it has one. -/
def longName (spelling : Spelling) (text : List Char) (rest : List String) (options : Options) :
    Except String (Options × List String) :=
  let name := text.takeWhile (· ≠ '=')
  let value := (text.drop name.length).drop 1
  let found := (spelling.long.find? fun entry => entry.1 = String.ofList name).orElse fun _ =>
    spelling.long.find? fun entry => name.isPrefixOf entry.1.toList
  match found with
  | none => .error ("unrecognized option '--" ++ String.ofList text ++ "'")
  | some (_, letter) =>
    if spelling.valued.toList.contains letter ∧ name.length = text.length then
      match rest with
      | next :: rest => .ok ({ options with given := options.given ++ [(letter, next)] }, rest)
      | [] => .error ("option '--" ++ String.ofList name ++ "' requires an argument")
    else .ok ({ options with given := options.given ++ [(letter, String.ofList value)] }, rest)

/-- Reads arguments. -/
def readFrom (spelling : Spelling) : Nat → List String → Options → Except String Options
  | 0, _, options => .ok options
  | _ + 1, [], options => .ok options
  | limit + 1, argument :: rest, options =>
    match argument.toList with
    | ['-', '-'] => .ok { options with operands := options.operands ++ rest }
    | '-' :: '-' :: text => do
      let (options, rest) ← longName spelling text rest options
      readFrom spelling limit rest options
    | '-' :: letter :: further => do
      let (options, rest) ← letters spelling (letter :: further) rest options
      readFrom spelling limit rest options
    | _ =>
      if spelling.anywhere then
        readFrom spelling limit rest { options with operands := options.operands ++ [argument] }
      else .ok { options with operands := options.operands ++ argument :: rest }

/-- Reads the arguments of a call. -/
def read (spelling : Spelling) (arguments : List String) : Except String Options :=
  readFrom spelling (arguments.length + 1) arguments {}

end Options

/-- Runs a program on its options, which may be wrong. -/
def Call.withOptions (call : Call) (spelling : Options.Spelling) (failure : Nat)
    (run : Options → Written) : Written :=
  match Options.read spelling call.arguments with
  | .ok options => run options
  | .error text => call.misused text failure

/-- The lines of octets, each with its end if it has one. -/
def linesOf (octets : List Char) : List (List Char) :=
  octets.foldr (fun character lines =>
    if character = '\n' then ['\n'] :: lines
    else
      match lines with
      | [] => [[character]]
      | line :: rest => (character :: line) :: rest) []

/-- The lines of octets without their ends. -/
def bareLines (octets : String) : List String :=
  (linesOf octets.toList).map fun line =>
    String.ofList (if line.getLast? = some '\n' then line.dropLast else line)

/-- Lines with their ends. -/
def ofLines (lines : List String) : String :=
  String.join (lines.map (· ++ "\n"))

/-- Goes through operands, complaining about those that cannot be read. Without operands the input
counts. -/
def Call.throughFiles {α : Type} (call : Call) (operands : List String) (start : α)
    (complaint : String → Disk.Fault → String) (status : Nat)
    (next : α → String → String → α) : α × Written :=
  (if operands.isEmpty then ["-"] else operands).foldl (fun (value, written) operand =>
    let written := if isInput operand then { written with readsInput := true } else written
    match call.contentOf operand with
    | .ok content => (next value operand content, written)
    | .error fault => (value, written.complain call (complaint operand fault) status))
    (start, call.nothing)

/-- The usual complaint about a file. -/
def plainComplaint (operand : String) (fault : Disk.Fault) : String :=
  operand ++ ": " ++ reasonOf fault

end DecompileServer.Program

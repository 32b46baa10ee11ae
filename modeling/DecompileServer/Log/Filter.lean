import DecompileServer.Log.Line
import DecompileServer.Text.Blank

/-!
# Filters of the log

A filter is a list of directives with commas between them. A directive sets a level for the parts of
the server whose names begin with a target, or for the lines that carry a field, or for the lines
inside a span, of which the server has none. The most specific directive that is about a line decides
whether it is written: the one with the longest target, of these one with a field, and of several for
the same target and field the last.
-/
namespace DecompileServer.Log

/-- Why a text is no directive. -/
inductive DirectiveFault where
  /-- It is not of the form of a directive. -/
  | malformed
  /-- Its level is not one. -/
  | unknownLevel
  deriving DecidableEq, Repr

/-- The wording of a fault. -/
def DirectiveFault.message : DirectiveFault → String
  | .malformed => "invalid filter directive"
  | .unknownLevel =>
    "error parsing level filter: expected one of \"off\", \"error\", \"warn\", \"info\", " ++
      "\"debug\", \"trace\", or a number 0-5"

/-- Which lines a directive is about, and the most verbose level at which they are written; without a
level none of them is. -/
structure Directive where
  /-- What the name of the part begins with. -/
  target : Option String := none
  /-- A field that the line carries. -/
  field : Option String := none
  /-- Whether the directive is about the lines inside a span. -/
  isScoped : Bool := false
  /-- The level. -/
  level : Option Level := some .trace
  deriving DecidableEq, Repr

/-- The number that digits write, after a plus sign perhaps. -/
def number? (text : List Char) : Option Nat :=
  let digits := if text.head? = some '+' then text.drop 1 else text
  if digits ≠ [] ∧ digits.all Char.isDigit then
    some (digits.foldl (fun value digit => value * 10 + (digit.toNat - 48)) 0)
  else none

/-- The level of a name or number; the least one stands for no level. -/
def levelOf? (text : List Char) : Option (Option Level) :=
  match number? text with
  | some 0 => some none
  | some 1 => some (some .error)
  | some 2 => some (some .warn)
  | some 3 => some (some .info)
  | some 4 => some (some .debug)
  | some 5 => some (some .trace)
  | some _ => none
  | none =>
    if Text.equalsIgnoringCase (String.ofList text) "off" then some none
    else (Level.ofName? (String.ofList text)).map some

namespace Directive

/-- What a directive has been read up to. The number is the place at which that part begins. -/
inductive Stage where
  /-- Nothing has been read. -/
  | start
  /-- A target, or a level alone. -/
  | target (start : Nat)
  /-- The name of a span. -/
  | span (start : Nat)
  /-- A field, perhaps with its value. -/
  | field (start : Nat)
  /-- The brace after a field. -/
  | afterField
  /-- The bracket after a span. -/
  | afterSpan
  /-- A level. -/
  | level (start : Nat)

/-- Whether a directive may begin with a character: a letter, a digit or one of a few marks. Beyond
the first blocks, those of punctuation and symbols are left out. -/
def isBeginning (character : Char) : Bool :=
  let code := character.toNat
  character.isAlphanum || character = '-' || character = ':' || character = '_' ||
    (0xC0 ≤ code && code ≠ 0xD7 && code ≠ 0xF7 && !(0x2000 ≤ code && code ≤ 0x2BFF) &&
      !(0x3000 ≤ code && code ≤ 0x3004) && !(0xFE00 ≤ code && code ≤ 0xFE6F) &&
      !(0x1F000 ≤ code && code ≤ 0x1FAFF))

/-- The characters of a text between two places. -/
def between (text : List Char) (first last : Nat) : List Char :=
  (text.drop first).take (last - first)

/-- Takes in a field, which begins a directive about spans if a value is asked for. -/
def withField (directive : Directive) (field : List Char) : Except DirectiveFault Directive :=
  if field = [] then .error .malformed
  else
    .ok { directive with
      field := some (String.ofList (field.takeWhile (· ≠ '=')))
      isScoped := directive.isScoped || field.contains '=' }

/-- Takes in a level; left out it is the most verbose one. -/
def withLevel (directive : Directive) (level : List Char) : Except DirectiveFault Directive :=
  if level = [] then .ok { directive with level := some .trace }
  else
    match levelOf? level with
    | some level => .ok { directive with level }
    | none => .error .unknownLevel

/-- Takes in the character at a place. -/
def step (text : List Char) (stage : Stage) (place : Nat) (character : Char)
    (directive : Directive) : Except DirectiveFault (Stage × Directive) :=
  match stage, character with
  | .start, '[' => .ok (.span (place + 1), directive)
  | .start, first =>
    if isBeginning first then .ok (.target place, directive) else .error .malformed
  | .target start, '=' =>
    .ok (.level (place + 1), { directive with target := some (String.ofList (between text start place)) })
  | .target start, '[' =>
    .ok (.span (place + 1), { directive with target := some (String.ofList (between text start place)) })
  | .target start, _ => .ok (.target start, directive)
  | .span _, ']' => .ok (.afterSpan, { directive with isScoped := true })
  | .span start, '\x7b' =>
    .ok (.field (place + 1), { directive with isScoped := between text start place ≠ [] })
  | .span start, _ => .ok (.span start, directive)
  | .field start, '\x7d' => do
    let directive ← directive.withField (between text start place)
    pure (.afterField, directive)
  | .field start, _ => .ok (.field start, directive)
  | .afterField, ']' => .ok (.afterSpan, directive)
  | .afterSpan, '=' => .ok (.level (place + 1), directive)
  | .level start, _ => .ok (.level start, directive)
  | _, _ => .error .malformed

/-- Takes in the characters from a place on. -/
def readFrom (text : List Char) (stage : Stage) (place : Nat) (directive : Directive) :
    List Char → Except DirectiveFault (Stage × Directive)
  | [] => .ok (stage, directive)
  | character :: rest => do
    let (stage, directive) ← step text stage place character directive
    readFrom text stage (place + 1) directive rest

/-- The directive of a text. Blanks around it are left out when places in it are counted, but not
when parts are taken from those places, so a blank at the front shifts the parts. -/
def ofText (text : String) : Except DirectiveFault Directive := do
  let whole := text.toList
  let (stage, directive) ← readFrom whole .start 0 {} (Text.trim text).toList
  match stage with
  | .target start =>
    let rest := whole.drop start
    match levelOf? rest with
    | some level => pure { directive with level }
    | none => pure { directive with target := some (String.ofList rest) }
  | .level start => directive.withLevel (whole.drop start)
  | .afterSpan => pure directive
  | _ => throw .malformed

/-- Whether a directive is about a line. -/
def isAbout (directive : Directive) (line : Line) : Bool :=
  !directive.isScoped && directive.target.all (Text.startsWith line.part) &&
    directive.field.all line.fields.contains

/-- Whether a directive is less specific than another that is about the same line. -/
def isLessSpecific (directive other : Directive) : Bool :=
  match directive.target, other.target with
  | none, some _ => true
  | some _, none => false
  | none, none => fieldLess
  | some left, some right =>
    left.utf8ByteSize < right.utf8ByteSize ||
      (left.utf8ByteSize == right.utf8ByteSize && fieldLess)
where
  /-- Whether the field comes before that of the other. -/
  fieldLess : Bool :=
    match directive.field, other.field with
    | none, some _ => true
    | some left, some right => left < right
    | _, none => false

end Directive

/-- A filter of the log. -/
structure Filter where
  /-- The directives, in order. -/
  directives : List Directive
  deriving DecidableEq, Repr

namespace Filter

/-- The texts of the directives in a filter. -/
def pieces (text : String) : List String :=
  ((Text.splitAt ',' text.toList).map String.ofList).filter (· ≠ "")

/-- What is said about a text that is no directive. -/
def notice? (piece : String) : Option String :=
  match Directive.ofText piece with
  | .ok _ => none
  | .error fault => some ("ignoring \x60" ++ piece ++ "\x60: " ++ fault.message)

/-- What is said about the texts in a filter that are no directives. -/
def notices (text : String) : List String :=
  (pieces text).filterMap notice?

/-- The filter of a text, given the level of the lines that no directive of it is about. -/
def ofText (text : String) (otherwise : Level) : Filter where
  directives :=
    ((pieces text).filterMap fun piece => (Directive.ofText piece).toOption) ++
      [{ level := some otherwise }]

/-- The directive that decides about a line. -/
def decisive? (filter : Filter) (line : Line) : Option Directive :=
  (filter.directives.filter (·.isAbout line)).foldl (fun best directive =>
    match best with
    | some found => if directive.isLessSpecific found then best else some directive
    | none => some directive) none

/-- Whether a line is written. -/
def admits (filter : Filter) (line : Line) : Bool :=
  match (filter.decisive? line).bind (·.level) with
  | some level => line.level.verbosity ≤ level.verbosity
  | none => false

end Filter

end DecompileServer.Log

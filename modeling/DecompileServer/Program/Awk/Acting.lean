import DecompileServer.Program.Awk.Reading
import DecompileServer.Program.Call

/-!
# Acting on records

A machine holds variables, arrays, the record and its fields. Numbers and texts turn into each other as
they are needed; a text from the input that looks like a number is compared as one.
-/
namespace DecompileServer.Program.Awk

/-! ### Values -/

/-- A value. -/
inductive Value where
  /-- A number. -/
  | number (value : Float)
  /-- A text. -/
  | text (value : String)
  /-- A text that comes from the input. -/
  | given (value : String)
  /-- Nothing, which counts as zero and as the empty text. -/
  | unset

/-- Whether a text from the input counts as a number. -/
def looksNumeric (text : String) : Bool :=
  let isGap (character : Char) : Bool := Arithmetic.isSpace character
  let trimmed := ((text.toList.dropWhile isGap).reverse.dropWhile isGap).reverse
  trimmed ≠ [] && (Print.realOf (String.ofList trimmed)).2.isEmpty &&
    trimmed.getLast?.any fun character => character.isDigit || character == '.'

/-- The integer that is left of a number without its places. -/
def truncated (value : Float) : Int :=
  let (significand, exponent) := (Json.Double.ofFloat value).significandAndExponent
  let magnitude : Nat :=
    if exponent < 0 then significand / Nat.pow 2 exponent.natAbs else significand * Nat.pow 2 exponent.natAbs
  if value < 0 then -(magnitude : Int) else magnitude

/-- The text of a number that is none. -/
def oddText? (value : Float) : Option String :=
  if value.isNaN then some (if (Json.Double.ofFloat value).isNegative then "-nan" else "nan")
  else if value.isInf then some (if value < 0 then "-inf" else "inf")
  else none

/-- The text of a number: an integer as such, another one with six digits. -/
def numberText (value : Float) : String :=
  match oddText? value with
  | some text => text
  | none =>
    let whole := truncated value
    if value == Float.ofInt whole ∧ whole.natAbs ≤ 0x7FFFFFFFFFFFFFFF then toString whole
    else String.ofList (Print.Directive.real { precision := some 6 } 'g' (Json.Double.ofFloat value))

/-- A value as a number. -/
def Value.toNumber : Value → Float
  | .number value => value
  | .text value | .given value => numberIn value
  | .unset => 0

/-- A value as a text. -/
def Value.toText : Value → String
  | .number value => numberText value
  | .text value | .given value => value
  | .unset => ""

/-- Whether a value counts as true. -/
def Value.isTrue : Value → Bool
  | .number value => value != 0
  | .text value => value ≠ ""
  | .given value => if looksNumeric value then numberIn value != 0 else value ≠ ""
  | .unset => false

/-- Whether a value is compared as a number. -/
def Value.isNumeric : Value → Bool
  | .number _ | .unset => true
  | .text _ => false
  | .given value => looksNumeric value

/-- How one value stands to another. -/
def Value.compare (left right : Value) : Ordering :=
  if left.isNumeric && right.isNumeric then
    if left.toNumber < right.toNumber then .lt
    else if left.toNumber == right.toNumber then .eq else .gt
  else
    if left.toText < right.toText then .lt else if left.toText = right.toText then .eq else .gt

/-- The value of an answer. -/
def Value.ofBool (answer : Bool) : Value := .number (if answer then 1 else 0)

/-! ### The machine -/

/-- What rules work on. -/
structure Machine where
  /-- The variables. -/
  bindings : List (String × Value) := []
  /-- The arrays with their elements, in the order in which these have come. -/
  arrays : List (String × List (String × Value)) := []
  /-- The record. -/
  record : String := ""
  /-- The fields. -/
  fields : List String := []
  /-- The rules, by their numbers, that have been begun and not been ended. -/
  begun : List Nat := []
  /-- The status to end with. -/
  status : Nat := 0
  /-- Whether the input has been read. -/
  readsInput : Bool := false
  /-- The files that are being written. -/
  opened : List String := []
  /-- The output. -/
  output : String := ""
  /-- The error output. -/
  errors : String := ""
  /-- The host. -/
  host : Host

/-- Why an action stops. -/
inductive Stop where
  /-- It is left. -/
  | left (how : Leaving)
  /-- It fails. -/
  | failed (text : String)

/-- Works on a machine. -/
abbrev Act := ExceptT Stop (StateM Machine)

/-- An association with one more pair. -/
def associated {β : Type} (pairs : List (String × β)) (key : String) (value : β) : List (String × β) :=
  if (pairs.lookup key).isSome then
    pairs.map fun pair => if pair.1 == key then (key, value) else pair
  else pairs ++ [(key, value)]

/-- The text of a variable. -/
def Machine.textOf (machine : Machine) (name : String) : String :=
  ((machine.bindings.lookup name).getD .unset).toText

/-- The pieces of a text between matches of an expression. -/
def splitAt (expression : Expression) (text : Array Char) : Nat → Nat → List (List Char)
  | 0, start => [(text.extract start text.size).toList]
  | limit + 1, start =>
    match expression.search false text start with
    | some found =>
      if found.stop = found.start then [(text.extract start text.size).toList]
      else (text.extract start found.start).toList :: splitAt expression text limit found.stop
    | none => [(text.extract start text.size).toList]

/-- The fields of a text with a separator. A blank stands for any white space, and more than one character
for an expression. -/
def fieldsOf (separator text : String) : List String :=
  let characters := text.toList
  match separator.toList with
  | [' '] => ((characters.splitOnP Arithmetic.isSpace).filter (· ≠ [])).map String.ofList
  | [] => characters.map Char.toString
  | [one] => if characters = [] then [] else (characters.splitOn one).map String.ofList
  | letters =>
    if characters = [] then []
    else
      let expression := Expression.read true (String.ofList letters)
      (splitAt expression characters.toArray (characters.length + 1) 0).map String.ofList

/-- Makes a text the record. -/
def Machine.withRecord (machine : Machine) (text : String) : Machine :=
  { machine with record := text, fields := fieldsOf (machine.textOf "FS") text }

/-- Makes texts the fields. -/
def Machine.withFields (machine : Machine) (fields : List String) : Machine :=
  { machine with fields, record := (machine.textOf "OFS").intercalate fields }

/-- The value of a variable. -/
def valueOf (name : String) : Act Value := do
  let machine ← get
  if name = "NF" then pure (.number machine.fields.length.toFloat)
  else pure ((machine.bindings.lookup name).getD .unset)

/-- Gives a variable a value. -/
def setVariable (name : String) (value : Value) : Act Unit :=
  modify fun machine =>
    if name = "NF" then
      let count := (truncated value.toNumber).toNat
      machine.withFields (machine.fields.take count ++ List.replicate (count - machine.fields.length) "")
    else { machine with bindings := associated machine.bindings name value }

/-- The value of a field. -/
def fieldAt (index : Nat) : Act Value := do
  let machine ← get
  if index = 0 then pure (.given machine.record)
  else pure (((machine.fields[index - 1]?).map Value.given).getD .unset)

/-- Gives a field a value. -/
def setField (index : Nat) (value : Value) : Act Unit :=
  modify fun machine =>
    if index = 0 then machine.withRecord value.toText
    else
      let fields := machine.fields ++ List.replicate (index - machine.fields.length) ""
      machine.withFields (fields.set (index - 1) value.toText)

/-- The elements of an array. -/
def elementsOf (array : String) : Act (List (String × Value)) := do
  pure (((← get).arrays.lookup array).getD [])

/-- Gives an array its elements. -/
def setElements (array : String) (elements : List (String × Value)) : Act Unit :=
  modify fun machine => { machine with arrays := associated machine.arrays array elements }

/-- The value of an operator with two operands. -/
def operated (operator : String) (left right : Value) : Value :=
  let first := left.toNumber
  let second := right.toNumber
  match operator with
  | "" => .text (left.toText ++ right.toText)
  | "+" => .number (first + second)
  | "-" => .number (first - second)
  | "*" => .number (first * second)
  | "/" => .number (first / second)
  | "%" =>
    if second == 0 then .number (0 / (0 : Float))
    else
      let quotient := first / second
      .number (first - Float.ofInt (truncated quotient) * second)
  | "^" => .number (first.pow second)
  | "<" => .ofBool (left.compare right == .lt)
  | "<=" => .ofBool (left.compare right != .gt)
  | ">" => .ofBool (left.compare right == .gt)
  | ">=" => .ofBool (left.compare right != .lt)
  | "==" => .ofBool (left.compare right == .eq)
  | "!=" => .ofBool (left.compare right != .eq)
  | _ => .unset

/-- The part of a text from a place on, counted from one and rounded, of a length if one is given. -/
def partOf (text : String) (start : Float) (size : Option Float) : String :=
  let rounded (value : Float) : Int := truncated (value + 0.5).floor
  let first := rounded start
  let last : Int := match size with
    | some size => rounded (start + size)
    | none => text.length + 1
  let before := (max first 1 - 1).toNat
  let count := (last - max first 1).toNat
  String.ofList ((text.toList.drop before).take count)

/-- What a replacement writes for a match. -/
def replacedBy (found : List Char) : List Char → List Char
  | '\\' :: '&' :: rest => '&' :: replacedBy found rest
  | '\\' :: '\\' :: rest => '\\' :: replacedBy found rest
  | '&' :: rest => found ++ replacedBy found rest
  | character :: rest => character :: replacedBy found rest
  | [] => []

/-- Replaces the first match or all of them. Gives how many there were, and the text. -/
def replaced (expression : Expression) (replacement : List Char) (isGlobal : Bool) (text : Array Char) :
    Nat → Nat → Nat × List Char
  | 0, start => (0, (text.extract start text.size).toList)
  | limit + 1, start =>
    match expression.search false text start with
    | none => (0, (text.extract start text.size).toList)
    | some found =>
      let before := (text.extract start found.start).toList
      let here := replacedBy (text.extract found.start found.stop).toList replacement
      if !isGlobal then (1, before ++ here ++ (text.extract found.stop text.size).toList)
      else if found.stop = found.start then
        let (count, rest) := if found.stop < text.size then
            replaced expression replacement isGlobal text limit (found.stop + 1) else (0, [])
        (count + 1, before ++ here ++ (text.extract found.stop (found.stop + 1)).toList ++ rest)
      else if found.stop = text.size then (1, before ++ here)
      else
        let (count, rest) := replaced expression replacement isGlobal text limit found.stop
        (count + 1, before ++ here ++ rest)

/-- A fault while records are gone through, with where it happens. -/
def faultAt {α : Type} (text : String) : Act α := do
  let machine ← get
  throw (.failed ("run time error: " ++ text ++ "\n\tFILENAME=\"" ++ machine.textOf "FILENAME" ++ "\" FNR=" ++
    machine.textOf "FNR" ++ " NR=" ++ machine.textOf "NR"))

/-- The text of a value by a directive with a letter; `none` if there is no such letter. -/
def shownBy? (directive : Print.Directive) (letter : Char) (value : Value) : Option (List Char) :=
  let number := value.toNumber
  let isWhole := ['d', 'i', 'o', 'x', 'X', 'u'].contains letter
  let isReal := ['e', 'E', 'f', 'F', 'g', 'G'].contains letter
  if isWhole || isReal then
    some (match oddText? number with
      | some text => directive.fill text.toList
      | none =>
        if isReal then directive.real letter (Json.Double.ofFloat number)
        else if letter = 'd' ∨ letter = 'i' then
          directive.integer 'd' (Arithmetic.clamped (truncated number))
        else directive.integer letter (truncated number))
  else if letter = 'c' then
    some (directive.fill (match value with
      | .number number => [Char.ofNat ((truncated number).toNat % 256)]
      | other => other.toText.toList.take 1))
  else if letter = 's' then
    let text := value.toText.toList
    some (directive.fill (match directive.precision with
      | some most => text.take most
      | none => text))
  else none

/-- Prints values by the rest of a format. `whole` is what to call all of it, and `count` the number of
directives before it. -/
def formattedFrom (whole : String) : Nat → Nat → List Char → List Value → Act (List Char)
  | 0, _, _, _ => pure []
  | _ + 1, _, [], _ => pure []
  | limit + 1, count, '%' :: '%' :: rest, values => do
    pure ('%' :: (← formattedFrom whole limit count rest values))
  | limit + 1, count, '%' :: rest, values => do
    let (directive, text, left) := Print.directive rest (values.map Value.toText)
    let values := values.drop (values.length - left.length)
    match text with
    | [] => pure ('%' :: rest)
    | letter :: after =>
      match shownBy? directive letter (values.headD .unset), values with
      | none, _ =>
        faultAt ("improper conversion(number " ++ toString (count + 1) ++ ") in " ++ whole)
      | some _, [] => faultAt ("not enough arguments passed to " ++ whole)
      | some shown, _ :: values => do
        pure (shown ++ (← formattedFrom whole limit (count + 1) after values))
  | limit + 1, count, character :: rest, values => do
    pure (character :: (← formattedFrom whole limit count rest values))

/-- What a function prints by a format. -/
def formatted (function format : String) (values : List Value) : Act String := do
  let whole := function ++ "(\"" ++ format ++ "\")"
  pure (String.ofList (← formattedFrom whole (format.length + 1) 0 format.toList values))

/-- What separates the parts of an index. -/
def indexSeparator : String := "\x1c"

/-- The expression that a value writes. -/
def expressionIn (value : Value) : Expression := Expression.read true value.toText

/-- Writes to the output or to a file. -/
def write (file : Option (Bool × String)) (text : String) : Act Unit := do
  match file with
  | none | some (_, "/dev/stdout") | some (_, "-") =>
    modify fun machine => { machine with output := machine.output ++ text }
  | some (_, "/dev/stderr") => modify fun machine => { machine with errors := machine.errors ++ text }
  | some (appends, name) => do
    let machine ← get
    let before := if appends || machine.opened.contains name then
        ((octetsAt machine.host name).toOption).getD "" else ""
    match writeOctets machine.host name (before ++ text) with
    | .ok host => set { machine with host, opened := name :: machine.opened }
    | .error fault =>
      throw (.failed ("cannot open \"" ++ name ++ "\" for output (" ++ reasonOf fault ++ ")"))

mutual

/-- The value of a term. The bound is on how deep terms are. -/
def evaluate : Nat → Term → Act Value
  | 0, _ => pure .unset
  | limit + 1, term => do
    match term with
    | .number value => pure (.number value)
    | .text value => pure (.text value)
    | .expression value => do
      pure (.ofBool (value.search false (← get).record.toList.toArray 0).isSome)
    | .name name => valueOf name
    | .field index => do
      let index := truncated (← evaluate limit index).toNumber
      if index < 0 then throw (.failed ("negative field index $" ++ toString index))
      fieldAt index.toNat
    | .element array index => do
      let index ← indexOf limit index
      let elements ← elementsOf array
      match elements.lookup index with
      | some value => pure value
      | none => do
        setElements array (elements ++ [(index, .unset)])
        pure .unset
    | .assignment target operator value => do
      let value ← evaluate limit value
      let value ←
        if operator = "" then pure value else do
          pure (operated operator (← evaluate limit target) value)
      assign limit target value
      pure value
    | .step target isUp isAfter => do
      let before := (← evaluate limit target).toNumber
      let after := if isUp then before + 1 else before - 1
      assign limit target (.number after)
      pure (.number (if isAfter then before else after))
    | .unary operator operand => do
      let value ← evaluate limit operand
      pure (match operator with
        | "!" => .ofBool (!value.isTrue)
        | "-" => .number (-value.toNumber)
        | _ => .number value.toNumber)
    | .binary operator left right => do
      let first ← evaluate limit left
      match operator with
      | "&&" => if first.isTrue then do pure (.ofBool (← evaluate limit right).isTrue) else pure (.ofBool false)
      | "||" => if first.isTrue then pure (.ofBool true) else do pure (.ofBool (← evaluate limit right).isTrue)
      | "~" | "!~" => do
        let expression ← expressionOf limit right
        let isFound := (expression.search false first.toText.toList.toArray 0).isSome
        pure (.ofBool (isFound == (operator == "~")))
      | _ => do pure (operated operator first (← evaluate limit right))
    | .choice condition first second => do
      if (← evaluate limit condition).isTrue then evaluate limit first else evaluate limit second
    | .membership index array => do
      let index ← indexOf limit index
      pure (.ofBool ((← elementsOf array).lookup index).isSome)
    | .group members => do
      match members with
      | [one] => evaluate limit one
      | members => do pure (.text (← indexOf limit members))
    | .call name arguments => call limit name arguments

/-- The index that terms write. -/
def indexOf : Nat → List Term → Act String
  | 0, _ => pure ""
  | _ + 1, [] => pure ""
  | limit + 1, [one] => do pure (← evaluate limit one).toText
  | limit + 1, first :: rest => do
    let first ← evaluate limit first
    pure (first.toText ++ indexSeparator ++ (← indexOf limit rest))

/-- The values of terms. -/
def evaluateAll : Nat → List Term → Act (List Value)
  | 0, _ => pure []
  | _ + 1, [] => pure []
  | limit + 1, first :: rest => do
    let value ← evaluate limit first
    pure (value :: (← evaluateAll limit rest))

/-- The expression of a term, which may write one. -/
def expressionOf : Nat → Term → Act Expression
  | 0, _ => pure .empty
  | limit + 1, term =>
    match term with
    | .expression value => pure value
    | other => do pure (expressionIn (← evaluate limit other))

/-- Gives a target a value. -/
def assign : Nat → Term → Value → Act Unit
  | 0, _, _ => pure ()
  | limit + 1, target, value => do
    match target with
    | .name name => setVariable name value
    | .field index => do
      setField (truncated (← evaluate limit index).toNumber).toNat value
    | .element array index => do
      let index ← indexOf limit index
      setElements array (associated (← elementsOf array) index value)
    | .group [one] => assign limit one value
    | _ => pure ()

/-- The value of a function. -/
def call : Nat → String → List Term → Act Value
  | 0, _, _ => pure .unset
  | limit + 1, name, arguments => do
    match name, arguments with
    | "length", [.name array] => do
      match (← get).arrays.lookup array with
      | some elements => pure (.number elements.length.toFloat)
      | none => do pure (.number (← valueOf array).toText.length.toFloat)
    | "length", [] => do pure (.number (← get).record.length.toFloat)
    | "split", text :: .name array :: separator => do
      let text := (← evaluate limit text).toText
      let parts ←
        match separator with
        | [.expression expression] =>
          pure (if text = "" then [] else
            (splitAt expression text.toList.toArray (text.length + 1) 0).map String.ofList)
        | [separator] => do pure (fieldsOf (← evaluate limit separator).toText text)
        | _ => do pure (fieldsOf (← valueOf "FS").toText text)
      setElements array ((parts.zipIdx).map fun (part, place) => (toString (place + 1), .given part))
      pure (.number parts.length.toFloat)
    | "match", [text, pattern] => do
      let text := (← evaluate limit text).toText
      let expression ← expressionOf limit pattern
      let (start, size) : Int × Int :=
        match expression.search false text.toList.toArray 0 with
        | some found => (found.start + 1, found.stop - found.start)
        | none => (0, -1)
      setVariable "RSTART" (.number (Float.ofInt start))
      setVariable "RLENGTH" (.number (Float.ofInt size))
      pure (.number (Float.ofInt start))
    | "sub", pattern :: replacement :: target | "gsub", pattern :: replacement :: target => do
      let expression ← expressionOf limit pattern
      let replacement := (← evaluate limit replacement).toText
      let target := target.headD (.field (.number 0))
      let text := (← evaluate limit target).toText
      let (count, after) :=
        replaced expression replacement.toList (name == "gsub") text.toList.toArray (text.length + 2) 0
      if 0 < count then assign limit target (.text (String.ofList after))
      pure (.number count.toFloat)
    | name, arguments => do
      let values ← evaluateAll limit arguments
      let first := values.headD .unset
      let second := (values[1]?).getD .unset
      match name with
      | "length" => pure (.number first.toText.length.toFloat)
      | "substr" =>
        pure (.text (partOf first.toText second.toNumber ((values[2]?).map Value.toNumber)))
      | "index" =>
        let found := ((Pattern.ends first.toText.toList).findIdx? fun rest =>
          second.toText.toList.isPrefixOf rest)
        pure (.number (match found with
          | some place => (place + 1).toFloat
          | none => 0))
      | "sprintf" => do pure (.text (← formatted "sprintf" first.toText (values.drop 1)))
      | "tolower" => pure (.text (String.ofList (first.toText.toList.map Char.toLower)))
      | "toupper" => pure (.text (String.ofList (first.toText.toList.map Char.toUpper)))
      | "int" => pure (.number (Float.ofInt (truncated first.toNumber)))
      | "sqrt" => pure (.number first.toNumber.sqrt)
      | "exp" => pure (.number first.toNumber.exp)
      | "log" => pure (.number first.toNumber.log)
      | "sin" => pure (.number first.toNumber.sin)
      | "cos" => pure (.number first.toNumber.cos)
      | "atan2" => pure (.number (first.toNumber.atan2 second.toNumber))
      | _ => pure (.number 0)

end

/-- How deep terms are at most. -/
def termLimit : Nat := 10000

/-- The value of a term. -/
def value (term : Term) : Act Value := evaluate termLimit term

/-! ### Actions -/

/-- Prints terms. -/
def printTerms (isFormatted : Bool) (terms : List Term) (file : Option (Bool × Term)) : Act Unit := do
  let values ← terms.mapM value
  let text ←
    if isFormatted then formatted "printf" (values.headD .unset).toText (values.drop 1)
    else do
      let machine ← get
      let body := if terms.isEmpty then machine.record
        else (machine.textOf "OFS").intercalate (values.map Value.toText)
      pure (body ++ machine.textOf "ORS")
  let file ← match file with
    | none => pure none
    | some (appends, term) => do pure (some (appends, (← value term).toText))
  write file text

/-- Does something that is part of a loop. Gives whether the loop goes on. -/
def inLoop (act : Act Unit) : Act Bool :=
  tryCatch (do
    act
    pure true) fun stop =>
      match stop with
      | .left .continue => pure true
      | .left .break => pure false
      | stop => throw stop

/-- Performs a statement. The bound is on how many statements and rounds there are one in the other. -/
def perform : Nat → Statement → Act Unit
  | 0, _ => pure ()
  | limit + 1, statement => do
    match statement with
    | .plain term => do
      let _ ← value term
    | .print isFormatted terms file => printTerms isFormatted terms file
    | .choice condition first second => do
      if (← value condition).isTrue then perform limit first else perform limit second
    | .repetition condition body next isLate => do
      let holds ← if isLate then pure true else do pure (← value condition).isTrue
      if holds then do
        if ← inLoop (perform limit body) then do
          perform limit next
          let goesOn ← if isLate then do pure (← value condition).isTrue else pure true
          if goesOn then perform limit (.repetition condition body next isLate)
    | .each name array body => do
      let indices := (← elementsOf array).map (·.1)
      let _ ← indices.foldlM (fun goesOn index => do
        if goesOn then do
          setVariable name (.text index)
          inLoop (perform limit body)
        else pure false) true
    | .block statements =>
      match statements with
      | [] => pure ()
      | first :: rest => do
        perform limit first
        perform limit (.block rest)
    | .delete array index => do
      if index.isEmpty then setElements array []
      else do
        let index ← indexOf termLimit index
        setElements array ((← elementsOf array).filter (·.1 ≠ index))
    | .leave how => throw (.left how)
    | .exit status => do
      let status := truncated (← value status).toNumber
      throw (.left (.exit (some (status % 256).toNat)))

/-- How many statements and rounds are performed one in the other. -/
def actLimit : Nat := 200000

/-- Applies a rule with a number to the record. -/
def apply (rule : Rule) (number : Nat) : Act Unit := do
  let act := perform actLimit rule.action
  match rule.occasion with
  | .start | .finish => pure ()
  | .always => act
  | .condition term => do
    if (← value term).isTrue then act
  | .range first last => do
    let isBegun := (← get).begun.contains number
    if isBegun then do
      if (← value last).isTrue then
        modify fun machine => { machine with begun := machine.begun.filter (· ≠ number) }
      act
    else if (← value first).isTrue then do
      if !(← value last).isTrue then
        modify fun machine => { machine with begun := number :: machine.begun }
      act

/-- Applies all rules to the record, as long as none goes on with the next one. -/
def applyAll (rules : List Rule) : Act Unit :=
  tryCatch ((rules.zipIdx).forM fun (rule, number) => apply rule number) fun stop =>
    match stop with
    | .left .next => pure ()
    | stop => throw stop

/-- The records of a text. Nothing between them means that empty lines separate them. -/
def recordsOf (separator text : String) : List String :=
  let characters := text.toList
  match separator.toList with
  | [] =>
    let lines := (bareLines text).map String.toList
    let paragraphs := (lines.splitOnP fun line => line.isEmpty).filter (· ≠ [])
    paragraphs.map fun lines => "\n".intercalate (lines.map String.ofList)
  | first :: _ =>
    let parts := characters.splitOn first
    let parts := if parts.getLast? = some [] then parts.dropLast else parts
    parts.map String.ofList

/-- Makes an assignment that an argument writes, if it does. -/
def assignmentIn? (argument : String) : Option (String × Value) :=
  match argument.toList with
  | first :: rest =>
    let name := (first :: rest).takeWhile isNameCharacter
    match (first :: rest).drop name.length with
    | '=' :: text =>
      if isNameStart first then
        let shielded := (text.flatMap fun character =>
          if character = '"' then ['\\', '"'] else [character]) ++ ['"']
        (quoted (shielded.length + 1) [] shielded).map fun (text, _) =>
          (String.ofList name, .given (String.ofList text))
      else none
    | _ => none
  | [] => none

/-- Goes through the records of an operand, unless it is an assignment. -/
def throughOperand (call : Call) (rules : List Rule) (operand : String) : Act Unit := do
  match assignmentIn? operand with
  | some (name, given) => setVariable name given
  | none => do
    let host := (← get).host
    match (if isInput operand then .ok call.input else octetsAt host operand) with
    | .error fault =>
      throw (.failed ("cannot open \"" ++ operand ++ "\" (" ++ reasonOf fault ++ ")"))
    | .ok content => do
      modify fun machine => { machine with readsInput := machine.readsInput || isInput operand }
      setVariable "FILENAME" (.text (if isInput operand then "" else operand))
      setVariable "FNR" (.number 0)
      (recordsOf ((← get).textOf "RS") content).forM fun record => do
        setVariable "NR" (.number ((← valueOf "NR").toNumber + 1))
        setVariable "FNR" (.number ((← valueOf "FNR").toNumber + 1))
        modify (·.withRecord record)
        applyAll rules

/-- Does something that may end everything, which leaves a status. -/
def untilExit (act : Act Unit) : Act Unit :=
  tryCatch act fun stop =>
    match stop with
    | .left (.exit status) =>
      modify fun machine => { machine with status := status.getD machine.status }
    | .left _ => pure ()
    | stop => throw stop

/-- Runs rules over operands. What is to be done at the end is done even if everything ends early. -/
def runRules (call : Call) (rules : List Rule) (operands : List String) : Act Unit := do
  let during (isRight : Occasion → Bool) : Act Unit :=
    (rules.filter fun rule => isRight rule.occasion).forM fun rule => perform actLimit rule.action
  let isStart : Occasion → Bool
    | .start => true
    | _ => false
  let isFinish : Occasion → Bool
    | .finish => true
    | _ => false
  untilExit do
    during isStart
    if rules.any fun rule => !isStart rule.occasion then
      let hasFile := operands.any fun operand => (assignmentIn? operand).isNone
      (if hasFile then operands else operands ++ ["-"]).forM (throughOperand call rules)
  untilExit (during isFinish)

/-- The variables at the start. -/
def firstVariables : List (String × Value) :=
  [("FS", .text " "), ("OFS", .text " "), ("ORS", .text "\n"), ("RS", .text "\n"), ("NR", .number 0),
    ("FNR", .number 0), ("SUBSEP", .text indexSeparator), ("FILENAME", .text ""), ("RSTART", .number 0),
    ("RLENGTH", .number (-1)), ("CONVFMT", .text "%.6g"), ("OFMT", .text "%.6g")]

/-- Runs rules that are given as an argument or in a file. -/
def awk (call : Call) : Written :=
  let refuse (text : String) : Written :=
    { call.nothing with errors := call.name ++ ": " ++ text ++ "\n", status := 2 }
  match Options.read { flags := "", valued := "Fvf", anywhere := false } call.arguments with
  | .error _ => refuse ("not an option: " ++ (call.arguments.headD ""))
  | .ok options =>
    let files := (options.given.filter (·.1 == 'f')).map (·.2)
    let (text, operands) : Except String String × List String :=
      if files.isEmpty then (.ok (options.operands.headD ""), options.operands.drop 1)
      else
        (files.foldlM (fun text file =>
          match call.contentOf file with
          | .ok content => .ok (text ++ content)
          | .error fault => .error ("cannot open \"" ++ file ++ "\" (" ++ reasonOf fault ++ ")")) "",
          options.operands)
    match text.bind rulesOf with
    | .error text => refuse text
    | .ok rules =>
      let separator := (options.value? 'F').bind fun text =>
        (assignmentIn? ("FS=" ++ text)).map fun (_, value) => ("FS", Value.text value.toText)
      let assigned := (options.given.filter (·.1 == 'v')).filterMap fun (_, text) => assignmentIn? text
      let names := "awk" :: operands
      let machine : Machine :=
        { host := call.host
          bindings := (separator.toList ++ assigned ++
            [("ARGC", Value.number names.length.toFloat)]).foldl (fun bindings (name, value) =>
              associated bindings name value) firstVariables
          arrays := [("ENVIRON", call.host.environment.map fun (name, value) =>
              (octetsOf name, .given (octetsOf value))),
            ("ARGV", (names.zipIdx).map fun (name, place) => (toString place, .given name))] }
      let (result, last) := ((runRules call rules operands).run machine : _ × Machine)
      let (status, errors) : Nat × String := match result with
        | .error (.failed text) => (2, call.name ++ ": " ++ text ++ "\n")
        | _ => (last.status, "")
      { output := last.output
        errors := last.errors ++ errors
        status
        readsInput := last.readsInput
        host := last.host }

end DecompileServer.Program.Awk

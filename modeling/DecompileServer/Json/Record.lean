import DecompileServer.Json.Draft
import DecompileServer.Text.Quoted

/-!
# Records from JSON

A record is given as an object of its fields or as an array of them in their order. Its values are
looked at in the order of the text, and the first one that is at fault decides, whether the text
breaks off there or the value is not of the wanted shape. A field may be left out unless it is
required.
-/
namespace DecompileServer.Json

/-- Why a value is not of the wanted shape. -/
inductive Mismatch where
  /-- The value is of another kind. -/
  | wrongKind (found wanted : String)
  /-- The integer is out of range. -/
  | outOfRange (value : Int) (wanted : String)
  /-- A required field is left out. -/
  | missingField (field : String)
  /-- The record has no such field. -/
  | unknownField (field : String) (known : List String)
  /-- A field is given twice. -/
  | repeatedField (field : String)
  /-- The text is none of those to choose from. -/
  | unknownChoice (choice : String) (known : List String)
  /-- The array has a wrong number of elements. -/
  | wrongLength (length : Nat) (wanted : String)
  deriving DecidableEq, Repr

/-- A name between the marks that stand around names. -/
def marked (name : String) : String :=
  "\x60" ++ name ++ "\x60"

/-- The names that would have been right. -/
def alternatives : List String → String
  | [] => "nothing"
  | [only] => marked only
  | [first, second] => marked first ++ " or " ++ marked second
  | names => "one of " ++ ", ".intercalate (names.map marked)

/-- The wording of a mismatch. -/
def Mismatch.message : Mismatch → String
  | .wrongKind found wanted => "invalid type: " ++ found ++ ", expected " ++ wanted
  | .outOfRange value wanted =>
    "invalid value: integer " ++ marked (toString value) ++ ", expected " ++ wanted
  | .missingField field => "missing field " ++ marked field
  | .unknownField field known =>
    "unknown field " ++ marked field ++ ", expected " ++ alternatives known
  | .repeatedField field => "duplicate field " ++ marked field
  | .unknownChoice choice known =>
    "unknown variant " ++ marked choice ++ ", expected " ++ alternatives known
  | .wrongLength length wanted =>
    "invalid length " ++ toString length ++ ", expected " ++ wanted

/-- Why a draft cannot be read. -/
inductive ReadFault where
  /-- The text is at fault. -/
  | text (fault : Fault)
  /-- A value is not of the wanted shape. -/
  | shape (mismatch : Mismatch)
  deriving DecidableEq, Repr

/-- The wording of a fault. -/
def ReadFault.message : ReadFault → String
  | .text .ended => "the text ends early"
  | .text .malformed => "the text is not JSON"
  | .shape mismatch => mismatch.message

/-- Reads a draft of the wanted shape. -/
abbrev Reader (α : Type) := Draft → Except ReadFault α

namespace Draft

mutual

/-- The draft of a value, which has no fault. -/
def ofValue : Value → Draft
  | .null => .null
  | .boolean value => .boolean value
  | .number value => .number value
  | .string value => .string value
  | .array elements => .array (ofElements elements) .closed
  | .object members => .object (ofMembers members) .closed

/-- The drafts of the elements of an array. -/
def ofElements : List Value → List Draft
  | [] => []
  | value :: rest => ofValue value :: ofElements rest

/-- The drafts of the members of an object. -/
def ofMembers : List (String × Value) → List (String × Draft)
  | [] => []
  | (key, value) :: rest => (key, ofValue value) :: ofMembers rest

end

/-- The words for a number. -/
def describeNumber : Number → String
  | .integer value _ => "integer " ++ marked (toString value)
  | .double value => "floating point " ++ marked value.text

/-- The fault of a draft of which something else was wanted. Only its beginning is looked at. -/
def refuse (draft : Draft) (wanted : String) : ReadFault :=
  match draft with
  | .null => .shape (.wrongKind "null" wanted)
  | .boolean value => .shape (.wrongKind ("boolean " ++ marked (if value then "true" else "false")) wanted)
  | .number value => .shape (.wrongKind (describeNumber value) wanted)
  | .string value => .shape (.wrongKind ("string " ++ Text.quote value) wanted)
  | .array .. => .shape (.wrongKind "sequence" wanted)
  | .object .. | .stray .. => .shape (.wrongKind "map" wanted)
  | .broken fault | .torn _ fault => .text fault

end Draft

namespace Reader

/-- Reads a text. -/
def string (wanted : String) : Reader String
  | .string value => .ok value
  | other => .error (other.refuse wanted)

/-- Reads a truth value. -/
def boolean : Reader Bool
  | .boolean value => .ok value
  | other => .error (other.refuse "a boolean")

/-- Reads a natural number below a limit. -/
def natural (limit : Nat) (wanted : String) : Reader { value : Nat // value < limit }
  | .number (.integer value _) =>
    if bounded : 0 ≤ value ∧ value < limit then .ok ⟨value.toNat, by omega⟩
    else .error (.shape (.outOfRange value wanted))
  | other => .error (other.refuse wanted)

/-- Reads any value. -/
def value : Reader Value := fun draft => draft.toValue.mapError .text

/-- Reads something that may be `null` instead. -/
def optional {α : Type} (reader : Reader α) : Reader (Option α)
  | .null => .ok none
  | other => (reader other).map some

/-- The choice of a name. -/
def choose {α : Type} (choices : List (String × α)) (name : String) : Except ReadFault α :=
  match choices.lookup name with
  | some chosen => .ok chosen
  | none => .error (.shape (.unknownChoice name (choices.map (·.1))))

/-- Reads one of several names, given as a text or as the only key of an object whose value is
`null`. -/
def choice {α : Type} (choices : List (String × α)) : Reader α
  | .string name => choose choices name
  | .object ((name, payload) :: others) ending => do
    let chosen ← choose choices name
    match payload with
    | .null => pure ()
    | other => throw (other.refuse "unit")
    match others, ending with
    | [], .closed => pure chosen
    | [], .broken fault => throw (.text fault)
    | _, _ => throw (.text .malformed)
  | .object [] (.broken fault) => .error (.text fault)
  | .stray ((name, payload) :: _) => do
    let _ ← choose choices name
    match payload with
    | .null => throw (.text .malformed)
    | other => throw (other.refuse "unit")
  | .broken fault | .torn '"' fault => .error (.text fault)
  | _ => .error (.text .malformed)

end Reader

/-- A field of a record that is filled in step by step. -/
structure RecordField (σ : Type) where
  /-- The name of the field. -/
  name : String
  /-- Reads the value of the field and tells how to fill it in. -/
  read : Reader (σ → σ)
  /-- Whether the field has to be given. -/
  isRequired : Bool := false

/-- A field whose value is read by a reader and filled in by a function. -/
def RecordField.of {σ α : Type} (name : String) (reader : Reader α) (fill : α → σ → σ) : RecordField σ where
  name
  read draft := (reader draft).map fill

/-- A field that has to be given. -/
def RecordField.required {σ : Type} (field : RecordField σ) : RecordField σ :=
  { field with isRequired := true }

/-- The form of a record. -/
structure RecordShape (σ : Type) where
  /-- The name of the kind of record. -/
  name : String
  /-- The fields, in their order. -/
  fields : List (RecordField σ)
  /-- Whether a member that is no field is a fault. -/
  isClosed : Bool
  /-- The fault of an array with more elements than there are fields. -/
  surplus : Nat → ReadFault

namespace RecordShape

variable {σ : Type}

/-- The names of the fields. -/
def names (shape : RecordShape σ) : List String :=
  shape.fields.map (·.name)

/-- The words for a record that is given as an array. -/
def arrayWords (shape : RecordShape σ) : String :=
  let count := shape.fields.length
  "struct " ++ shape.name ++ " with " ++ toString count ++
    (if count = 1 then " element" else " elements")

/-- Fills in members. The names that have been met are kept to tell a repeated one. -/
def readMembers (shape : RecordShape σ) :
    List (String × Draft) → List String → σ → Except ReadFault (List String × σ)
  | [], met, record => .ok (met, record)
  | (key, draft) :: rest, met, record =>
    match shape.fields.find? (·.name = key) with
    | none =>
      if shape.isClosed then .error (.shape (.unknownField key shape.names))
      else do
        let _ ← Reader.value draft
        shape.readMembers rest met record
    | some field =>
      if met.contains key then .error (.shape (.repeatedField key))
      else do
        let fill ← field.read draft
        shape.readMembers rest (key :: met) (fill record)

/-- Fails if a required field has not been met. -/
def checkMet (shape : RecordShape σ) (met : List String) : Except ReadFault Unit :=
  match shape.fields.find? fun field => field.isRequired && !met.contains field.name with
  | some field => .error (.shape (.missingField field.name))
  | none => .ok ()

/-- Fills in elements, of which the given number has been read, in the order of the fields. -/
def readElements (shape : RecordShape σ) (ending : Ending) :
    List (RecordField σ) → List Draft → Nat → σ → Except ReadFault σ
  | [], [], _, record => do
    ending.check.mapError .text
    pure record
  | [], further, count, _ => .error (shape.surplus (count + further.length))
  | field :: fields, draft :: rest, count, record => do
    let fill ← field.read draft
    shape.readElements ending fields rest (count + 1) (fill record)
  | left, [], count, record => do
    ending.check.mapError .text
    match left.findIdx? (·.isRequired) with
    | some place => throw (.shape (.wrongLength (count + place) shape.arrayWords))
    | none => pure record

/-- Reads a record, beginning with one in which nothing has been filled in. -/
def reader (shape : RecordShape σ) (start : σ) : Reader σ
  | .object members ending => do
    let (met, record) ← shape.readMembers members [] start
    ending.check.mapError .text
    shape.checkMet met
    pure record
  | .stray members => do
    let _ ← shape.readMembers members [] start
    throw (.text .malformed)
  | .array elements ending => shape.readElements ending shape.fields elements 0 start
  | other => .error (other.refuse ("struct " ++ shape.name))

end RecordShape

/-- Reads a text that holds one value and nothing else. -/
def readText {α : Type} (reader : Reader α) (text : String) : Except ReadFault α := do
  let (draft, alone) := draft text
  let result ← reader draft
  if alone then pure result else throw (.text .malformed)

/-- Reads a value. A value is no text, so the only possible fault is one of shape. -/
def readValue {α : Type} (reader : Reader α) (value : Value) : Except ReadFault α :=
  reader (.ofValue value)

end DecompileServer.Json

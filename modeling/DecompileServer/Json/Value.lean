import DecompileServer.Json.Double

/-!
# JSON values

A number without a point or exponent in the range of 64 bits, signed or not, is an integer; every
other number is a double. The members of an object are in the order of their keys, each key once.
-/
namespace DecompileServer.Json

/-- Whether an integer fits in 64 bits, with a sign or without. -/
def isWide (value : Int) : Bool :=
  -0x8000000000000000 ≤ value && value < 0x10000000000000000

/-- A number. -/
inductive Number where
  /-- An integer that fits in 64 bits. -/
  | integer (value : Int) (wide : isWide value = true)
  /-- A number with a point or an exponent, or one that is out of range for an integer. -/
  | double (value : Double)
  deriving DecidableEq

/-- A JSON value. -/
inductive Value where
  /-- The value `null`. -/
  | null
  /-- A truth value. -/
  | boolean (value : Bool)
  /-- A number. -/
  | number (value : Number)
  /-- A text. -/
  | string (value : String)
  /-- A sequence of values. -/
  | array (elements : List Value)
  /-- Values by key. -/
  | object (members : List (String × Value))
  deriving Inhabited

namespace Value

/-- The value of an integer that is written in the library; one out of range becomes `null`. -/
def integer (value : Int) : Value :=
  if wide : isWide value = true then .number (.integer value wide) else .null

/-- Sets the value of a key, in the place that the order of keys gives it. -/
def insertMember (key : String) (value : Value) : List (String × Value) → List (String × Value)
  | [] => [(key, value)]
  | (other, known) :: rest =>
    if key = other then (key, value) :: rest
    else if key < other then (key, value) :: (other, known) :: rest
    else (other, known) :: insertMember key value rest

/-- The object of the given members, of which the last one of a key counts. -/
def ofMembers (members : List (String × Value)) : Value :=
  .object (members.foldl (fun known (key, value) => insertMember key value known) [])

/-- The value of a key of an object. -/
def member? (value : Value) (key : String) : Option Value :=
  match value with
  | .object members => members.lookup key
  | _ => none

/-- The text, if the value is one. -/
def string? : Value → Option String
  | .string text => some text
  | _ => none

end Value

end DecompileServer.Json

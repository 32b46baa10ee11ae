import DecompileServer.Text.Pieces

/-!
# Requests and responses

The parts of HTTP that the server looks at and sets.
-/
namespace DecompileServer.Http

/-- A request. -/
structure Request where
  /-- The method. -/
  method : String
  /-- The target. -/
  target : String
  /-- The headers, in order. -/
  headers : List (String × List UInt8) := []
  /-- The body. -/
  body : List UInt8 := []
  deriving DecidableEq, Repr

namespace Request

/-- Whether a character ends what stands before the path, or the path itself. -/
def isBoundary (character : Char) : Bool :=
  character = '/' || character = '?' || character = '#'

/-- The part of a target from its path on. An absolute target names a scheme and an authority
before that; if nothing follows them, the path is the root. -/
def fromPath (target : List Char) : List Char :=
  let afterScheme := target.dropWhile fun character => character ≠ ':' && !isBoundary character
  match afterScheme with
  | ':' :: '/' :: '/' :: further =>
    let rest := further.dropWhile fun character => !isBoundary character
    if rest.head? = some '/' then rest else '/' :: rest
  | _ => target

/-- The path of the target, without a query. -/
def path (request : Request) : String :=
  String.ofList ((fromPath request.target.toList).takeWhile fun character =>
    character ≠ '?' ∧ character ≠ '#')

/-- The first value of a header; the case of its name does not matter. -/
def header? (request : Request) (name : String) : Option (List UInt8) :=
  (request.headers.find? fun header => Text.equalsIgnoringCase header.1 name).map (·.2)

end Request

/-- A response. -/
structure Response where
  /-- The status. -/
  status : Nat
  /-- The id of the session. -/
  session : Option String := none
  /-- The type of the body. -/
  contentType : Option String := none
  /-- The methods that are allowed. -/
  allow : Option String := none
  /-- The body. -/
  body : String := ""
  deriving DecidableEq, Repr

/-- Whether a byte in a header stands for a visible character, a space or a tab. -/
def isVisible (byte : UInt8) : Bool :=
  (32 ≤ byte && byte < 127) || byte = 9

/-- The text of a header value, if every byte of it is visible. -/
def visibleText? (value : List UInt8) : Option String :=
  if value.all isVisible then some (String.ofList (value.map fun byte => Char.ofNat byte.toNat))
  else none

end DecompileServer.Http

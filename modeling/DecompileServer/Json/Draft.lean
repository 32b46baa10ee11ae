import DecompileServer.Json.Lexer

/-!
# JSON text as far as it makes sense

A draft is what a text says up to its first fault, with the fault in its place. A reader that wants a
certain shape can go through it from the front and stop at whichever comes first, a value of the
wrong shape or the fault. A draft without a fault is a value.
-/
namespace DecompileServer.Json

/-- How a sequence of elements or members ends. -/
inductive Ending where
  /-- With its closing bracket or brace. -/
  | closed
  /-- With a fault after what was read. -/
  | broken (fault : Fault)
  /-- With a comma and a fault where the next key should begin. -/
  | dangling (fault : Fault)
  deriving DecidableEq, Repr

/-- A JSON text up to its first fault. -/
inductive Draft where
  /-- The value `null`. -/
  | null
  /-- A truth value. -/
  | boolean (value : Bool)
  /-- A number. -/
  | number (value : Number)
  /-- A text. -/
  | string (value : String)
  /-- An array. -/
  | array (elements : List Draft) (ending : Ending)
  /-- An object, its members in the order of the text. -/
  | object (members : List (String × Draft)) (ending : Ending)
  /-- An object in which something else stands in the place of a key. -/
  | stray (members : List (String × Draft))
  /-- A fault in the place of a value. -/
  | broken (fault : Fault)
  /-- A fault inside what begins with a character. -/
  | torn (character : Char) (fault : Fault)

/-- A container around the value that is being read. -/
inductive Frame where
  /-- An array with the elements before, last first. -/
  | array (before : List Draft)
  /-- An object with the members before, last first, and the key of the value. -/
  | object (before : List (String × Draft)) (key : String)

/-- What the next token has to be. -/
inductive Mode where
  /-- The beginning of a value. -/
  | value
  /-- The beginning of the first element of an array, or its end. -/
  | firstElement
  /-- The first key of an object, or its end. -/
  | firstKey
  /-- A key of an object, after the members given last first. -/
  | nextKey (before : List (String × Draft))
  /-- The colon after a key. -/
  | colon (before : List (String × Draft)) (key : String)
  /-- What follows a value that is complete. -/
  | after (draft : Draft)

/-- The number of containers that may stand around a value. -/
def depthLimit : Nat := 127

/-- What a text says when it breaks off with the given draft inside containers. -/
def breakOff (draft : Draft) : List Frame → Draft
  | [] => draft
  | .array before :: outer => breakOff (.array (draft :: before).reverse (.broken .malformed)) outer
  | .object before key :: outer =>
    breakOff (.object ((key, draft) :: before).reverse (.broken .malformed)) outer

/-- The draft that the end of the tokens leaves. -/
def endOf (lexEnd : LexEnd) (mode : Mode) (frames : List Frame) : Draft :=
  -- Where no value may begin, a broken token is as wrong as any other.
  let elsewhere : Fault :=
    match lexEnd with
    | .finished => .ended
    | .broken .. => .malformed
  let atKey (before : List (String × Draft)) (ending : Fault → Ending) : Draft :=
    match lexEnd with
    | .finished => .object before.reverse (ending .ended)
    | .broken character fault =>
      if character = '"' then .object before.reverse (ending fault) else .stray before.reverse
  match mode with
  | .value | .firstElement =>
    match lexEnd with
    | .finished => breakOff (.broken .ended) frames
    | .broken character fault => breakOff (.torn character fault) frames
  | .firstKey => breakOff (atKey [] .broken) frames
  | .nextKey before => breakOff (atKey before .dangling) frames
  | .colon before key =>
    breakOff (.object ((key, .broken elsewhere) :: before).reverse (.broken .malformed)) frames
  | .after draft =>
    match frames with
    | [] => draft
    | .array before :: outer => breakOff (.array (draft :: before).reverse (.broken elsewhere)) outer
    | .object before key :: outer =>
      breakOff (.object ((key, draft) :: before).reverse (.broken elsewhere)) outer

/-- Reads tokens, with the containers around the place that has been reached, innermost first. The
flag tells whether the value is followed by nothing. -/
def readTokens (lexEnd : LexEnd) : List Token → Mode → List Frame → Draft × Bool
  | [], mode, frames => (endOf lexEnd mode frames, lexEnd == .finished)
  | token :: rest, mode, frames =>
    match mode with
    | .value => beginning token rest frames
    | .firstElement =>
      match token, frames with
      | .closeArray, _ :: outer => readTokens lexEnd rest (.after (.array [] .closed)) outer
      | _, _ => beginning token rest frames
    | .firstKey =>
      match token with
      | .string key => readTokens lexEnd rest (.colon [] key) frames
      | .closeObject => readTokens lexEnd rest (.after (.object [] .closed)) frames
      | _ => (breakOff (.stray []) frames, false)
    | .nextKey before =>
      match token with
      | .string key => readTokens lexEnd rest (.colon before key) frames
      | .closeObject => (breakOff (.object before.reverse (.dangling .malformed)) frames, false)
      | _ => (breakOff (.stray before.reverse) frames, false)
    | .colon before key =>
      match token with
      | .colon => readTokens lexEnd rest .value (.object before key :: frames)
      | _ =>
        (breakOff (.object ((key, .broken .malformed) :: before).reverse (.broken .malformed)) frames,
          false)
    | .after draft =>
      match frames with
      | [] => (draft, false)
      | .array before :: outer =>
        match token with
        | .comma => readTokens lexEnd rest .value (.array (draft :: before) :: outer)
        | .closeArray =>
          readTokens lexEnd rest (.after (.array (draft :: before).reverse .closed)) outer
        | _ => (breakOff (.array (draft :: before).reverse (.broken .malformed)) outer, false)
      | .object before key :: outer =>
        match token with
        | .comma => readTokens lexEnd rest (.nextKey ((key, draft) :: before)) outer
        | .closeObject =>
          readTokens lexEnd rest (.after (.object ((key, draft) :: before).reverse .closed)) outer
        | _ =>
          (breakOff (.object ((key, draft) :: before).reverse (.broken .malformed)) outer, false)
where
  /-- Reads a token where a value begins. -/
  beginning (token : Token) (rest : List Token) (frames : List Frame) : Draft × Bool :=
    match token with
    | .null => readTokens lexEnd rest (.after .null) frames
    | .boolean value => readTokens lexEnd rest (.after (.boolean value)) frames
    | .number value => readTokens lexEnd rest (.after (.number value)) frames
    | .string value => readTokens lexEnd rest (.after (.string value)) frames
    | .openArray =>
      if frames.length = depthLimit then (breakOff (.broken .malformed) frames, false)
      else readTokens lexEnd rest .firstElement (.array [] :: frames)
    | .openObject =>
      if frames.length = depthLimit then (breakOff (.broken .malformed) frames, false)
      else readTokens lexEnd rest .firstKey frames
    | _ => (breakOff (.broken .malformed) frames, false)

/-- The draft of a text. The flag tells whether nothing follows it. -/
def draft (text : String) : Draft × Bool :=
  let (tokens, lexEnd) := lex text
  readTokens lexEnd tokens .value []

/-- Fails where a sequence breaks off. -/
def Ending.check : Ending → Except Fault Unit
  | .closed => .ok ()
  | .broken fault | .dangling fault => .error fault

namespace Draft

mutual

/-- The value of a draft, or its first fault. -/
def toValue : Draft → Except Fault Value
  | .null => .ok .null
  | .boolean value => .ok (.boolean value)
  | .number value => .ok (.number value)
  | .string value => .ok (.string value)
  | .array elements ending => do
    let values ← toValues elements
    ending.check
    pure (.array values)
  | .object members ending => do
    let values ← toMembers members
    ending.check
    pure (.ofMembers values)
  | .stray members => do
    let _ ← toMembers members
    throw .malformed
  | .broken fault | .torn _ fault => .error fault

/-- The values of drafts, or the first fault among them. -/
def toValues : List Draft → Except Fault (List Value)
  | [] => .ok []
  | first :: further => do
    let value ← toValue first
    let values ← toValues further
    pure (value :: values)

/-- The members of an object, or the first fault among them. -/
def toMembers : List (String × Draft) → Except Fault (List (String × Value))
  | [] => .ok []
  | (key, first) :: further => do
    let value ← toValue first
    let values ← toMembers further
    pure ((key, value) :: values)

end

end Draft

/-- The value of a JSON text. -/
def parse (text : String) : Except Fault Value := do
  let (draft, alone) := draft text
  let value ← draft.toValue
  if alone then pure value else throw .malformed

end DecompileServer.Json

import DecompileServer.Program.Arithmetic
import DecompileServer.Program.Pattern
import DecompileServer.Program.Shell

/-!
# Expansion

Words become fields: parameters, the output of scripts and sums are put in, what came from them is
split where separators stand, and patterns become the paths that they stand for. Quoting keeps
characters from being split or matched.
-/
namespace DecompileServer.Program

/-- A piece of an expanded word. -/
inductive Fragment where
  /-- A character, which may separate fields if `isSplit`. -/
  | glyph (glyph : Glyph) (isSplit : Bool)
  /-- A quotation, which makes a field even if it is empty. -/
  | mark
  /-- The border of what was put in. -/
  | edge
  /-- The space between two arguments that may be split. -/
  | space
  /-- The border between two fields. -/
  | gap

namespace Fragment

/-- The fragments of a text that was put in. -/
def ofValue (isQuoted : Bool) (text : String) : List Fragment :=
  let glyphs := (glyphsOf isQuoted text).map fun glyph => Fragment.glyph glyph (!isQuoted)
  if isQuoted then .mark :: glyphs else .edge :: glyphs ++ [.edge]

/-- The glyphs of fragments that are not split. -/
def glyphs (fragments : List Fragment) : List Glyph :=
  fragments.filterMap fun fragment =>
    match fragment with
    | .glyph one _ => some one
    | .space | .gap => some ⟨' ', true⟩
    | .mark | .edge => none

/-- The text of fragments that are not split. -/
def text (fragments : List Fragment) : String := textOfGlyphs (glyphs fragments)

/-- Where the splitting of fragments stands. -/
structure Splitting where
  /-- The fields, the last first. -/
  fields : List (List Glyph) := []
  /-- The glyphs of the field that is not ended, the last first. -/
  current : List Glyph := []
  /-- Whether that field is one even if it is empty. -/
  isBegun : Bool := false
  /-- Whether separators are passed over; the flag says whether one that is not white space may be
  among them. -/
  passing : Option Bool := none

/-- Ends a field. -/
def Splitting.finish (splitting : Splitting) (passing : Option Bool) : Splitting :=
  { fields := splitting.current.reverse :: splitting.fields, passing }

/-- Adds a character to a field. -/
def Splitting.add (splitting : Splitting) (glyph : Glyph) : Splitting :=
  { splitting with current := glyph :: splitting.current, isBegun := true, passing := none }

/-- Takes a separator. White space at the front of a field separates nothing. -/
def Splitting.separate (splitting : Splitting) (isWhite : Bool) : Splitting :=
  match splitting.passing, isWhite with
  | some _, true => splitting
  | some true, false => { splitting with passing := some false }
  | _, true => if splitting.isBegun then splitting.finish (some true) else splitting
  | _, false => splitting.finish (some false)

/-- Takes a fragment. -/
def Splitting.take (separators : List Char) (splitting : Splitting) (fragment : Fragment) : Splitting :=
  match fragment with
  | .glyph one isSplit =>
    if isSplit && separators.contains one.character then
      splitting.separate ([' ', '\t', '\n'].contains one.character)
    else splitting.add one
  | .mark => { splitting with isBegun := true, passing := none }
  | .edge => { splitting with passing := none }
  | .space => splitting.separate true
  | .gap => splitting.finish none

/-- The fields that fragments are split into. -/
def fields (separators : String) (fragments : List Fragment) : List (List Glyph) :=
  let splitting := fragments.foldl (Splitting.take separators.toList) {}
  (if splitting.isBegun then splitting.finish none else splitting).fields.reverse

end Fragment

namespace Shell

/-- The letters of options in the order in which they are shown. -/
def optionLetters : List Char := "ubaCEVvxsnmiIfe".toList

/-- The value of a parameter that is one text. -/
def parameter? (shell : Shell) (name : String) : Option String :=
  match name with
  | "#" => some (toString shell.arguments.length)
  | "?" => some (toString shell.status)
  | "-" => some (String.ofList (optionLetters.filter shell.isSet))
  | "$" => some (toString shell.process)
  | "!" => shell.background.map toString
  | "0" => some shell.name
  | name =>
    if name.toList.all Char.isDigit then
      match (Arithmetic.digitsIn 10 name.toList).1 with
      | 0 => some shell.name
      | number + 1 => shell.arguments[number]?
    else shell.valueOf? name

/-- Puts the path of a home in the place of a tilde at the front of characters. The name after the
tilde has to be ended in the text, or by the end of the word if `isLast`. -/
def withoutTilde (shell : Shell) (inAssignment isLast : Bool) (text : List Char) :
    Option (String × List Char) :=
  match text with
  | '~' :: rest =>
    let name := rest.takeWhile fun character => !(character == '/' || (inAssignment && character == ':'))
    let after := rest.drop name.length
    if after = [] ∧ !isLast then none
    else
      let home? := if name = [] then shell.valueOf? "HOME"
        else if name = "root".toList then some "/root" else none
      home?.map fun home => (home, after)
  | _ => none

/-- The parts of a text of an assignment, in which tildes may stand after colons too. -/
def tildesIn (shell : Shell) (isLast : Bool) : Nat → Bool → List Char → List Char → List Part
  | 0, _, taken, rest => [.plain (String.ofList (taken.reverse ++ rest))]
  | limit + 1, isFront, taken, rest =>
    match (if isFront then shell.withoutTilde true isLast rest else none), rest with
    | some (home, after), _ =>
      (if taken = [] then [] else [.plain (String.ofList taken.reverse)]) ++
        .quoted home :: tildesIn shell isLast limit false [] after
    | none, [] => if taken = [] then [] else [.plain (String.ofList taken.reverse)]
    | none, character :: rest =>
      tildesIn shell isLast limit (character == ':') (character :: taken) rest

/-- A word without tildes that stand for paths. -/
def withHomes (shell : Shell) (inAssignment : Bool) (word : Word) : Word :=
  if inAssignment then
    word.zipIdx.flatMap fun (part, index) =>
      match part with
      | .plain text =>
        tildesIn shell (index + 1 == word.length) (text.length + 1) (index == 0) [] text.toList
      | part => [part]
  else
    match word with
    | .plain text :: rest =>
      match shell.withoutTilde false rest.isEmpty text.toList with
      | some (home, []) => .quoted home :: rest
      | some (home, after) => .quoted home :: .plain (String.ofList after) :: rest
      | none => word
    | word => word

/-- The fragments of arguments. -/
def ofArguments (shell : Shell) (name : String) (isFull isQuoted : Bool)
    (change : String → String) : List Fragment :=
  let arguments := shell.arguments.map change
  if isFull && (name == "@" || !isQuoted) then
    let pieces := arguments.map fun argument => Fragment.ofValue isQuoted argument
    let border := if isQuoted then Fragment.gap else Fragment.space
    (pieces.zipIdx.flatMap fun (piece, index) => if index = 0 then piece else border :: piece)
  else
    let separator := String.ofList (shell.separators.toList.take 1)
    Fragment.ofValue isQuoted (separator.intercalate arguments)

section

variable (output : Option Script → Run String)

/-- The value of a sum. -/
def sumOf (expression : String) : Run Int := do
  let shell ← get
  let known (name : String) : String := (shell.valueOf? name).getD ""
  match Arithmetic.evaluate expression known with
  | .ok (value, assigned) =>
    for (name, value) in assigned.reverse do
      assign name (toString value)
    pure value
  | .error fault => fail (fault.message expression)

mutual

/-- Expands parts. Fields may come apart if `isFull`; plain characters may be split if `inWord`. The
bound is on how deep parts lie in each other. -/
def expandParts : Nat → Bool → Bool → List Part → Run (List Fragment)
  | 0, _, _, _ => pure []
  | limit + 1, isFull, inWord, parts => do
    let pieces ← parts.mapM fun part => expandPart limit isFull inWord part
    pure pieces.flatten

/-- Expands a part. -/
def expandPart : Nat → Bool → Bool → Part → Run (List Fragment)
  | 0, _, _, _ => pure []
  | limit + 1, isFull, inWord, part => do
    match part with
    | .plain text => pure ((glyphsOf false text).map fun glyph => .glyph glyph inWord)
    | .quoted text => pure (.mark :: (glyphsOf true text).map fun glyph => .glyph glyph false)
    | .malformed => fail "Bad substitution"
    | .output script isQuoted => do
      pure (Fragment.ofValue isQuoted (← output script))
    | .sum expression isQuoted => do
      let text := Fragment.text (← expandParts limit false false expression)
      pure (Fragment.ofValue isQuoted (toString (← sumOf text)))
    | .parameter name use isQuoted => expandParameter limit isFull name use isQuoted

/-- Expands a parameter. -/
def expandParameter : Nat → Bool → String → Use → Bool → Run (List Fragment)
  | 0, _, _, _, _ => pure []
  | limit + 1, isFull, name, use, isQuoted => do
    let shell ← get
    let isRow := name == "@" || name == "*"
    let value? : Option String :=
      if isRow then
        if shell.arguments.isEmpty then none
        else some ((String.ofList (shell.separators.toList.take 1)).intercalate shell.arguments)
      else shell.parameter? name
    let whole : List Fragment :=
      if isRow then shell.ofArguments name isFull isQuoted id
      else Fragment.ofValue isQuoted (value?.getD "")
    let require : Run Unit := do
      if value?.isNone && shell.isSet 'u' && !isRow then fail (name ++ ": parameter not set")
    match use with
    | .value => do
      require
      pure whole
    | .length => do
      require
      pure (Fragment.ofValue isQuoted (toString (value?.getD "").length))
    | .trimmed isFront isLongest pattern => do
      require
      let pattern := Pattern.read (Fragment.glyphs (← expandParts limit false false pattern))
      let trim (text : String) : String :=
        String.ofList (pattern.trim isFront isLongest text.toList)
      pure (if isRow then shell.ofArguments name isFull isQuoted trim
        else Fragment.ofValue isQuoted (trim (value?.getD "")))
    | .fallback kind isStrict word =>
      let counts := match value? with
        | none => false
        | some value => !(isStrict && value == "")
      let instead (isFull : Bool) : Run (List Fragment) := do
        let word := if isQuoted then word else shell.withHomes false word
        let fragments ← expandParts limit isFull (!isQuoted) word
        pure (if isQuoted then .mark :: fragments else .edge :: fragments ++ [.edge])
      match kind with
      | .substitute => if counts then pure whole else instead isFull
      | .replace =>
        if counts then instead isFull else pure (if isQuoted then [.mark] else [])
      | .assign =>
        if counts then pure whole
        else if !isName name then fail (name ++ ": bad variable name")
        else do
          let text := Fragment.text (← instead false)
          assign name text
          pure (Fragment.ofValue isQuoted text)
      | .complain =>
        if counts then pure whole
        else do
          let text := Fragment.text (← instead false)
          let usual := "parameter not set" ++ if isStrict then " or null" else ""
          fail (name ++ ": " ++ if word.isEmpty then usual else text)

end

/-- How deep parts may lie in each other. -/
def depthLimit : Nat := 1000

/-- The text that a word stands for where it is not split. -/
def textOfWord (inAssignment : Bool) (word : Word) : Run String := do
  let word := (← get).withHomes inAssignment word
  pure (Fragment.text (← expandParts output depthLimit false false word))

/-- The pattern that a word writes. -/
def patternOfWord (word : Word) : Run Pattern := do
  let word := (← get).withHomes false word
  pure (Pattern.read (Fragment.glyphs (← expandParts output depthLimit false false word)))

/-- The fields that a word stands for. -/
def fieldsOfWord (word : Word) : Run (List String) := do
  let word := (← get).withHomes false word
  let fragments ← expandParts output depthLimit true false word
  let shell ← get
  let fields := Fragment.fields shell.separators fragments
  pure (fields.flatMap fun glyphs =>
    if hasWildcard glyphs && !shell.isSet 'f' then
      match pathsOf shell.host glyphs with
      | [] => [textOfGlyphs glyphs]
      | paths => paths
    else [textOfGlyphs glyphs])

end

end Shell

end DecompileServer.Program

import DecompileServer.Program.Pattern

/-!
# Regular expressions

An expression is written in one of two spellings: the basic one, where parentheses, braces and the bar
need a backslash to be special, and the extended one, where a backslash takes their meaning away. A
search finds the leftmost place at which an expression holds; repetitions take as much as they can,
and of several alternatives the longest counts.
-/
namespace DecompileServer.Program

/-- A regular expression. -/
inductive Expression where
  /-- Nothing. -/
  | empty
  /-- A character. -/
  | character (value : Char)
  /-- Any character. -/
  | any
  /-- A character that is in a set, or is not if `isNegated`. -/
  | set (isNegated : Bool) (members : List Member)
  /-- The front of the text. -/
  | front
  /-- The end of the text. -/
  | back
  /-- The front or the end of a word. -/
  | boundary (isFront : Bool)
  /-- What a group stands for, kept under a number. -/
  | group (number : Nat) (body : Expression)
  /-- What the group with a number has stood for. -/
  | reference (number : Nat)
  /-- Repetitions. -/
  | repeated (body : Expression) (least : Nat) (most : Option Nat)
  /-- One after the other. -/
  | sequence (first second : Expression)
  /-- One or the other. -/
  | alternative (first second : Expression)

namespace Expression

/-- A place in a text where an expression holds: where it begins and ends, and where its groups do. -/
structure Match where
  /-- Where it begins. -/
  start : Nat
  /-- Where it ends. -/
  stop : Nat
  /-- Where its groups begin and end. -/
  groups : List (Nat × Nat × Nat)

/-- The small form of a character if the case of letters does not matter. -/
def folded (ignoresCase : Bool) (character : Char) : Char :=
  if ignoresCase then character.toLower else character

/-- Whether a character belongs to words. -/
def isWordCharacter (character : Option Char) : Bool :=
  character.any fun character => character.isAlphanum || character == '_'

/-- The longer of two matches. -/
def longer (first second : Option Match) : Option Match :=
  match first, second with
  | some left, some right => if left.stop < right.stop then some right else some left
  | some left, none => some left
  | none, right => right

/-- Goes on behind an expression at a place of a text. -/
def attempt (text : Array Char) (ignoresCase : Bool) :
    Nat → Expression → Nat → List (Nat × Nat × Nat) →
      (Nat → List (Nat × Nat × Nat) → Option Match) → Option Match
  | 0, _, _, _, _ => none
  | limit + 1, expression, place, groups, goOn =>
    let again := attempt text ignoresCase limit
    match expression with
    | .empty => goOn place groups
    | .character value =>
      if text[place]?.any fun found => folded ignoresCase found == folded ignoresCase value then
        goOn (place + 1) groups
      else none
    | .any => if place < text.size then goOn (place + 1) groups else none
    | .set isNegated members =>
      match text[place]? with
      | some found =>
        let isMember := members.any fun member =>
          member.holds found || (ignoresCase && (member.holds found.toLower || member.holds found.toUpper))
        if isMember != isNegated then goOn (place + 1) groups else none
      | none => none
    | .front => if place = 0 then goOn place groups else none
    | .back => if place = text.size then goOn place groups else none
    | .boundary isFront =>
      let before := place ≠ 0 && isWordCharacter text[place - 1]?
      let after := isWordCharacter text[place]?
      if before != isFront && after == isFront then goOn place groups else none
    | .group number body =>
      again body place groups fun next groups => goOn next ((number, place, next) :: groups)
    | .reference number =>
      match groups.lookup number with
      | some (first, last) =>
        let size := last - first
        if place + size ≤ text.size ∧ text.extract first last == text.extract place (place + size) then
          goOn (place + size) groups
        else none
      | none => none
    | .repeated body least most =>
      let more :=
        if most = some 0 then none
        else
          again body place groups fun next groups =>
            if next = place ∧ least = 0 then none
            else again (.repeated body (least - 1) (most.map (· - 1))) next groups goOn
      match more with
      | some found => some found
      | none => if least = 0 then goOn place groups else none
    | .sequence first second =>
      again first place groups fun next groups => again second next groups goOn
    | .alternative first second => longer (again first place groups goOn) (again second place groups goOn)

/-- The number of parts of an expression, repetitions counted as often as they have to come. -/
def size : Expression → Nat
  | .group _ body => body.size + 1
  | .repeated body least most => body.size * (least + most.getD 1 + 1) + 1
  | .sequence first second | .alternative first second => first.size + second.size + 1
  | _ => 1

/-- The first match at or after a place, with so many places left. -/
def searchFrom (expression : Expression) (ignoresCase : Bool) (text : Array Char) :
    Nat → Nat → Option Match
  | 0, _ => none
  | left + 1, start =>
    let bound := (text.size + 2) * (expression.size + 2)
    match attempt text ignoresCase bound expression start [] fun stop groups =>
        some ⟨start, stop, groups⟩ with
    | some found => some found
    | none => searchFrom expression ignoresCase text left (start + 1)

/-- The first match at or after a place. -/
def search (expression : Expression) (ignoresCase : Bool) (text : Array Char) (start : Nat) :
    Option Match :=
  if text.size < start then none else searchFrom expression ignoresCase text (text.size + 1 - start) start

/-! ### Reading -/

/-- A piece of a spelled expression. -/
inductive Spelled where
  /-- A character that stands for itself. -/
  | itself (character : Char)
  /-- A character with a meaning. -/
  | special (character : Char)
  /-- A set. -/
  | set (isNegated : Bool) (members : List Member)
  /-- A bound on repetitions. -/
  | bound (least : Nat) (most : Option Nat)
  /-- A set that makes no sense. -/
  | wrongSet (complaint : String)
  /-- The front of a set that is not closed. -/
  | openSet
  /-- The front of a bound that is not closed. -/
  | openBound

/-- The glyphs of a set. A backslash and what stands between dots or equals signs in brackets of its own
mean nothing but themselves. -/
def glyphsOf : List Char → List Glyph
  | '[' :: '.' :: letter :: '.' :: ']' :: rest => ⟨letter, true⟩ :: glyphsOf rest
  | '[' :: '=' :: letter :: '=' :: ']' :: rest => ⟨letter, true⟩ :: glyphsOf rest
  | letter :: rest => ⟨letter, letter == '\\'⟩ :: glyphsOf rest
  | [] => []

/-- What follows so many glyphs of a set. -/
def behindGlyphs : Nat → List Char → List Char
  | 0, rest => rest
  | count + 1, '[' :: '.' :: _ :: '.' :: ']' :: rest => behindGlyphs count rest
  | count + 1, '[' :: '=' :: _ :: '=' :: ']' :: rest => behindGlyphs count rest
  | count + 1, _ :: rest => behindGlyphs count rest
  | _ + 1, [] => []

/-- What is wrong with a set of members, whose glyphs are given. -/
def wrongSet? (members : List Member) : List Glyph → Option String
  | [] =>
    if members.any fun member =>
      match member with
      | .range first last => decide (last < first)
      | .ofClass _ => false
    then some "Invalid range end" else none
  | ⟨'[', false⟩ :: ⟨':', isQuoted⟩ :: rest =>
    let name := rest.takeWhile fun glyph => glyph.character.isAlpha
    match rest.drop name.length with
    | ⟨':', _⟩ :: ⟨']', _⟩ :: _ =>
      if classNames.contains (textOfGlyphs name) then wrongSet? members (⟨':', isQuoted⟩ :: rest)
      else some "Invalid character class name"
    | _ => wrongSet? members (⟨':', isQuoted⟩ :: rest)
  | _ :: rest => wrongSet? members rest

/-- The set of members at the front of characters after an opening bracket, with what follows. -/
def setAt? (text : List Char) : Option (Spelled × List Char) :=
  let (isNegated, inside) := match text with
    | '^' :: inside => (true, inside)
    | inside => (false, inside)
  let glyphs := glyphsOf inside
  match Pattern.membersOf (glyphs.length + 1) [] glyphs with
  | some (members, after) =>
    let count := glyphs.length - after.length
    let found : Spelled := match wrongSet? members (glyphs.take count) with
      | some complaint => .wrongSet complaint
      | none => .set isNegated members
    some (found, behindGlyphs count inside)
  | none => none

/-- The bound on repetitions at the front of characters after an opening brace, with what follows. -/
def boundAt? (isExtended : Bool) (text : List Char) : Option (Spelled × List Char) :=
  let number (text : List Char) : Option Nat × List Char :=
    let digits := text.takeWhile Char.isDigit
    (if digits = [] then none
      else some (digits.foldl (fun value digit => value * 10 + (digit.toNat - 48)) 0),
      text.drop digits.length)
  let (least, rest) := number text
  let (most, rest) := match rest with
    | ',' :: rest => number rest
    | rest => (least, rest)
  match isExtended, rest with
  | true, '\x7d' :: after => some (.bound (least.getD 0) most, after)
  | false, '\\' :: '\x7d' :: after => some (.bound (least.getD 0) most, after)
  | _, _ => none

/-- The pieces of a spelled expression. The flag tells whether a repetition would have nothing to
repeat. -/
def pieces (isExtended : Bool) : Nat → Bool → List Char → List Spelled
  | 0, _, _ => []
  | _ + 1, _, [] => []
  | limit + 1, isFresh, '\\' :: letter :: rest =>
    let again := pieces isExtended limit
    if letter.isDigit ∧ letter ≠ '0' ∨ ['<', '>', 'b', 'w', 'W', 's', 'S'].contains letter then
      .special letter :: again false rest
    else if letter = 'n' then .itself '\n' :: again false rest
    else if letter = 't' then .itself '\t' :: again false rest
    else if isExtended then .itself letter :: again false rest
    else
      match letter with
      | '(' | '|' => .special letter :: again true rest
      | ')' => .special ')' :: again false rest
      | '+' | '?' => if isFresh then .itself letter :: again false rest
        else .special letter :: again false rest
      | '\x7b' =>
        match boundAt? false rest with
        | some (bound, after) => bound :: again false after
        | none => .openBound :: again false rest
      | _ => .itself letter :: again false rest
  | limit + 1, isFresh, letter :: rest =>
    let again := pieces isExtended limit
    match letter with
    | '.' => .special '.' :: again false rest
    | '[' =>
      match setAt? rest with
      | some (found, after) => found :: again false after
      | none => .openSet :: again false rest
    | '*' => (if isFresh then .itself '*' else .special '*') :: again false rest
    | '^' =>
      if isExtended ∨ isFresh then .special '^' :: again true rest else .itself '^' :: again false rest
    | '$' =>
      let isLast : Bool := match rest with
        | [] | '\\' :: ')' :: _ | '\\' :: '|' :: _ => true
        | _ => false
      (if isExtended || isLast then .special '$' else .itself '$') :: again false rest
    | '(' | '|' =>
      if isExtended then .special letter :: again true rest else .itself letter :: again false rest
    | ')' => (if isExtended then .special ')' else .itself ')') :: again false rest
    | '+' | '?' =>
      (if isExtended ∧ !isFresh then .special letter else .itself letter) :: again false rest
    | '\x7b' =>
      match (if isExtended ∧ !isFresh then boundAt? true rest else none) with
      | some (bound, after) => bound :: again false after
      | none => .itself '\x7b' :: again false rest
    | _ => .itself letter :: again false rest

/-- The expression of a piece that is no mark for putting pieces together. -/
def ofPiece : Spelled → Expression
  | .itself letter => .character letter
  | .set isNegated members => .set isNegated members
  | .special '.' => .any
  | .special '^' => .front
  | .special '$' => .back
  | .special '<' => .boundary true
  | .special '>' => .boundary false
  | .special 'b' => .alternative (.boundary true) (.boundary false)
  | .special 'w' => .set false [.ofClass "alnum", .range '_' '_']
  | .special 'W' => .set true [.ofClass "alnum", .range '_' '_']
  | .special 's' => .set false [.ofClass "space"]
  | .special 'S' => .set true [.ofClass "space"]
  | .special letter => .reference (letter.toNat - 48)
  | .bound .. => .empty
  | .openSet | .wrongSet _ => .character '['
  | .openBound => .character '\x7b'

/-- What repeats an expression, if a piece does. -/
def repetition? : Spelled → Option (Nat × Option Nat)
  | .special '*' => some (0, none)
  | .special '+' => some (1, none)
  | .special '?' => some (0, some 1)
  | .bound least most => some (least, most)
  | _ => none

/-- Repeats an expression as the pieces after it say. -/
def withRepetitions (expression : Expression) : List Spelled → Expression × List Spelled
  | [] => (expression, [])
  | piece :: rest =>
    match repetition? piece with
    | some (least, most) => withRepetitions (.repeated expression least most) rest
    | none => (expression, piece :: rest)

/-- The expression of pieces up to a closing parenthesis, after what has been read of it. `groups` is
the number of groups that have been opened. -/
def ofPieces : Nat → Nat → Expression → List Spelled → Expression × Nat × List Spelled
  | 0, groups, before, rest => (before, groups, rest)
  | _ + 1, groups, before, [] => (before, groups, [])
  | limit + 1, groups, before, piece :: rest =>
    match piece with
    | .special ')' => (before, groups, piece :: rest)
    | .special '|' =>
      let (other, groups, rest) := ofPieces limit groups .empty rest
      (.alternative before other, groups, rest)
    | .special '(' =>
      let number := groups + 1
      let (body, groups, rest) := ofPieces limit number .empty rest
      let (one, rest) := withRepetitions (.group number body) (rest.drop 1)
      ofPieces limit groups (.sequence before one) rest
    | piece =>
      let (one, rest) := withRepetitions (ofPiece piece) rest
      ofPieces limit groups (.sequence before one) rest

/-- What is wrong with pieces after an expression with so many open groups, the number of all groups
being known. -/
def wrongIn (groups : Nat) : Nat → List Spelled → Option String
  | 0, [] => none
  | _ + 1, [] => some "Unmatched ( or \\("
  | _, .wrongSet complaint :: _ => some complaint
  | _, .openSet :: _ => some "Unmatched [, [^, [:, [., or [="
  | _, .openBound :: _ => some "Unmatched \\\x7b"
  | depth, .special '(' :: rest => wrongIn groups (depth + 1) rest
  | 0, .special ')' :: _ => some "Unmatched ) or \\)"
  | depth + 1, .special ')' :: rest => wrongIn groups depth rest
  | depth, .special letter :: rest =>
    if letter.isDigit ∧ groups < letter.toNat - 48 then some "Invalid back reference"
    else wrongIn groups depth rest
  | depth, _ :: rest => wrongIn groups depth rest

/-- What is wrong with a spelled expression. -/
def wrong? (isExtended : Bool) (text : String) : Option String :=
  let spelled := pieces isExtended (text.length + 1) true text.toList
  let isGroup : Spelled → Bool
    | .special '(' => true
    | _ => false
  wrongIn (spelled.filter isGroup).length 0 spelled

/-- Reads an expression. -/
def read (isExtended : Bool) (text : String) : Expression :=
  let spelled := pieces isExtended (text.length + 1) true text.toList
  (ofPieces (2 * spelled.length + 2) 0 .empty spelled).1

end Expression

end DecompileServer.Program

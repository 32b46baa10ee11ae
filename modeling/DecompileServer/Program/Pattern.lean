import DecompileServer.Disk.Listing
import DecompileServer.Program.Octets

/-!
# Patterns

A star stands for any characters, a question mark for one and brackets for one of a set. Quoted
characters stand for themselves. Patterns select branches, cut the values of parameters and find the
names of files.
-/
namespace DecompileServer.Program

/-- A character, and whether it stands for itself. -/
structure Glyph where
  /-- The character. -/
  character : Char
  /-- Whether it stands for itself. -/
  isQuoted : Bool
  deriving DecidableEq, Repr

/-- The glyphs of a text. -/
def glyphsOf (isQuoted : Bool) (text : String) : List Glyph :=
  text.toList.map fun character => ⟨character, isQuoted⟩

/-- The text of glyphs. -/
def textOfGlyphs (glyphs : List Glyph) : String :=
  String.ofList (glyphs.map (·.character))

/-- A class of characters, by its name. -/
def isOfClass (name : String) (character : Char) : Bool :=
  let code := character.toNat
  match name with
  | "alpha" => character.isAlpha
  | "digit" => character.isDigit
  | "alnum" => character.isAlphanum
  | "upper" => character.isUpper
  | "lower" => character.isLower
  | "space" => character == ' ' || (9 ≤ code && code ≤ 13)
  | "blank" => character == ' ' || character == '\t'
  | "punct" => 33 ≤ code && code ≤ 126 && !character.isAlphanum
  | "print" => 32 ≤ code && code ≤ 126
  | "graph" => 33 ≤ code && code ≤ 126
  | "cntrl" => code < 32 || code == 127
  | "xdigit" => character.isDigit || ('a' ≤ character && character ≤ 'f') ||
      ('A' ≤ character && character ≤ 'F')
  | _ => false

/-- The names of the classes of characters. -/
def classNames : List String :=
  ["alpha", "digit", "alnum", "upper", "lower", "space", "blank", "punct", "print", "graph", "cntrl",
    "xdigit"]

/-- A part of a set of characters. -/
inductive Member where
  /-- The characters from one to another. -/
  | range (first last : Char)
  /-- The characters of a class. -/
  | ofClass (name : String)
  deriving DecidableEq, Repr

/-- Whether a character is in a part of a set. -/
def Member.holds (member : Member) (character : Char) : Bool :=
  match member with
  | .range first last => first ≤ character && character ≤ last
  | .ofClass name => isOfClass name character

/-- An element of a pattern. -/
inductive Element where
  /-- Any characters. -/
  | star
  /-- One character. -/
  | one
  /-- One character that is in a set, or is not if `isNegated`. -/
  | set (isNegated : Bool) (members : List Member)
  /-- This character. -/
  | literal (character : Char)
  deriving DecidableEq, Repr

/-- A pattern. -/
abbrev Pattern := List Element

namespace Pattern

/-- The class at the front of glyphs after an opening bracket, with what follows it. -/
def classAt? (glyphs : List Glyph) : Option (String × List Glyph) :=
  match glyphs with
  | ⟨':', _⟩ :: rest =>
    let name := rest.takeWhile fun glyph => glyph.character.isAlpha
    match rest.drop name.length with
    | ⟨':', _⟩ :: ⟨']', _⟩ :: after =>
      if classNames.contains (textOfGlyphs name) then some (textOfGlyphs name, after) else none
    | _ => none
  | _ => none

/-- The members of a set up to its closing bracket, with what follows that. The bracket does not
close a set that is still empty. -/
def membersOf : Nat → List Member → List Glyph → Option (List Member × List Glyph)
  | 0, _, _ => none
  | _ + 1, _, [] => none
  | limit + 1, known, glyph :: rest =>
    if glyph.character = ']' ∧ !glyph.isQuoted ∧ known ≠ [] then some (known.reverse, rest)
    else
      match (if glyph.character = '[' ∧ !glyph.isQuoted then classAt? rest else none) with
      | some (name, after) => membersOf limit (.ofClass name :: known) after
      | none =>
        match rest with
        | ⟨'-', false⟩ :: last :: after =>
          if last.character = ']' ∧ !last.isQuoted then
            membersOf limit (.range glyph.character glyph.character :: known) rest
          else membersOf limit (.range glyph.character last.character :: known) after
        | _ => membersOf limit (.range glyph.character glyph.character :: known) rest

/-- The pattern of glyphs. A bracket that is not closed stands for itself. -/
def ofGlyphs : Nat → List Glyph → Pattern
  | 0, _ => []
  | _ + 1, [] => []
  | limit + 1, ⟨'*', false⟩ :: rest => .star :: ofGlyphs limit rest
  | limit + 1, ⟨'?', false⟩ :: rest => .one :: ofGlyphs limit rest
  | limit + 1, ⟨'[', false⟩ :: rest =>
    let (isNegated, inside) := match rest with
      | ⟨'!', false⟩ :: inside => (true, inside)
      | _ => (false, rest)
    match membersOf (inside.length + 1) [] inside with
    | some (members, after) => .set isNegated members :: ofGlyphs limit after
    | none => .literal '[' :: ofGlyphs limit rest
  | limit + 1, glyph :: rest => .literal glyph.character :: ofGlyphs limit rest

/-- The pattern of glyphs. -/
def read (glyphs : List Glyph) : Pattern :=
  ofGlyphs (glyphs.length + 1) glyphs

/-- All ends of a list, the list itself first. -/
def ends : List Char → List (List Char)
  | [] => [[]]
  | first :: rest => (first :: rest) :: ends rest

/-- Whether a pattern stands for exactly these characters. -/
def holds : Pattern → List Char → Bool
  | [], text => text.isEmpty
  | .star :: rest, text => (ends text).any (holds rest)
  | .one :: rest, _ :: text => holds rest text
  | .set isNegated members :: rest, first :: text =>
    (members.any (·.holds first)) != isNegated && holds rest text
  | .literal character :: rest, first :: text => character == first && holds rest text
  | _ :: _, [] => false

/-- A text without the shortest or the longest part that a pattern stands for, at its front or at its
end. -/
def trim (pattern : Pattern) (isFront isLongest : Bool) (text : List Char) : List Char :=
  let sizes := List.range (text.length + 1)
  let cuts := if isLongest == isFront then sizes.reverse else sizes
  let isCut (size : Nat) : Bool :=
    if isFront then pattern.holds (text.take size) else pattern.holds (text.drop size)
  match cuts.find? isCut with
  | some size => if isFront then text.drop size else text.take size
  | none => text

end Pattern

/-- Whether glyphs hold one with a special meaning in patterns. -/
def hasWildcard (glyphs : List Glyph) : Bool :=
  glyphs.any fun glyph => !glyph.isQuoted && ['*', '?', '['].contains glyph.character

/-- Glyphs between slashes. -/
def pathPieces : List Glyph → List (List Glyph)
  | [] => [[]]
  | glyph :: rest =>
    if glyph.character = '/' then [] :: pathPieces rest
    else
      match pathPieces rest with
      | [] => [[glyph]]
      | piece :: pieces => (glyph :: piece) :: pieces

/-- The names in the directory that a path leads to, as octets. -/
def namesAt (host : Host) (path : String) : List String :=
  let path := if path = "" then "." else path
  ((host.namesIn? ⟨textOf path⟩).getD []).map octetsOf

/-- The paths that go on from `before` along the pieces of a pattern, in the order of their bytes. -/
def pathsFrom (host : Host) (before : String) : List (List Glyph) → List String
  | [] => []
  | piece :: rest =>
    let names :=
      if hasWildcard piece then
        let pattern := Pattern.read piece
        let isDotted := (piece.head?.map (·.character)) == some '.'
        let dots := if isDotted then [".", ".."] else []
        (dots ++ namesAt host before).filter fun name =>
          (isDotted || name.toList.head? ≠ some '.') && pattern.holds name.toList
      else [textOfGlyphs piece]
    match rest with
    | [] => (names.map (before ++ ·)).filter fun path => host.holds ⟨textOf path⟩
    | _ :: _ => names.flatMap fun name => pathsFrom host (before ++ name ++ "/") rest

/-- The paths that a pattern stands for. -/
def pathsOf (host : Host) (glyphs : List Glyph) : List String :=
  (pathsFrom host "" (pathPieces glyphs)).mergeSort fun left right => !(decide (right < left))

end DecompileServer.Program

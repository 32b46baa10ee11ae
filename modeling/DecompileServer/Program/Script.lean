/-!
# Shell scripts

A script is made of simple commands with assignments, words and redirections, and of the ways to
put commands together. A word is a row of parts; what a part in double quotes expands to is neither
split nor matched against the names of files.
-/
namespace DecompileServer.Program

/-- How a file is opened. -/
inductive Opening where
  /-- To read what is in it. -/
  | read
  /-- To write it anew. -/
  | write
  /-- To write it anew even if that is forbidden for files that are there. -/
  | overwrite
  /-- To write at its end. -/
  | append
  /-- To read and write it. -/
  | update
  deriving DecidableEq, Repr

/-- What happens where a parameter has no value. -/
inductive Fallback where
  /-- Another text takes its place. -/
  | substitute
  /-- The parameter is set. -/
  | assign
  /-- The script ends with a message. -/
  | complain
  /-- The other way round: another text takes the place of a value. -/
  | replace
  deriving DecidableEq, Repr

mutual

/-- A part of a word. -/
inductive Part where
  /-- Characters that stand for themselves unless they have a special meaning. -/
  | plain (text : String)
  /-- Characters that stand for themselves. -/
  | quoted (text : String)
  /-- The value of a parameter. -/
  | parameter (name : String) (use : Use) (isQuoted : Bool)
  /-- The output of a script. -/
  | output (script : Option Script) (isQuoted : Bool)
  /-- The value of an arithmetic expression. -/
  | sum (expression : List Part) (isQuoted : Bool)
  /-- What looks like a parameter but is none. -/
  | malformed

/-- What is made of the value of a parameter. -/
inductive Use where
  /-- The value itself. -/
  | value
  /-- The number of its octets. -/
  | length
  /-- The value or what the fallback gives. An empty value counts as none if `isStrict`. -/
  | fallback (kind : Fallback) (isStrict : Bool) (word : List Part)
  /-- The value without what matches a pattern at its front or its end. -/
  | trimmed (isFront isLongest : Bool) (pattern : List Part)

/-- A change of where a command reads and writes. -/
inductive Redirection where
  /-- A file. -/
  | file (descriptor : Nat) (opening : Opening) (name : List Part)
  /-- Where another descriptor leads, or nowhere. -/
  | duplicate (descriptor : Nat) (source : List Part)
  /-- A text in the script. -/
  | document (descriptor : Nat) (body : List Part)

/-- A script. The numbers of lines are those on which commands begin. -/
inductive Script where
  /-- A command with assignments before it, or assignments alone. -/
  | simple (line : Nat) (assignments : List (String × List Part)) (words : List (List Part))
      (redirections : List Redirection)
  /-- A command with redirections after it. -/
  | redirected (line : Nat) (body : Script) (redirections : List Redirection)
  /-- Commands of which each reads what the one before writes. -/
  | pipeline (parts : List Script)
  /-- A command that succeeds if its body fails. -/
  | negated (body : Script)
  /-- The second command runs if the first succeeds. -/
  | both (first second : Script)
  /-- The second command runs if the first fails. -/
  | either (first second : Script)
  /-- One command after the other. -/
  | sequence (first second : Script)
  /-- A command that is not waited for. -/
  | background (body : Script)
  /-- One of two commands. -/
  | conditional (test consequence : Script) (alternative : Option Script)
  /-- A command that is repeated as long as a test succeeds, or fails if `isUntil`. -/
  | loop (isUntil : Bool) (test body : Script)
  /-- A command for each of some words, or for each argument. -/
  | forEach (line : Nat) (name : String) (words : Option (List (List Part))) (body : Script)
  /-- The first of some commands of which a pattern matches a word. -/
  | select (line : Nat) (subject : List Part) (branches : List (List (List Part) × Option Script))
  /-- A command whose changes to the shell do not last. -/
  | subshell (line : Nat) (body : Script)
  /-- The definition of a function. -/
  | function (name : String) (body : Script)

end

/-- A word: its parts side by side. -/
abbrev Word := List Part

/-- Whether a character may begin a name. -/
def isNameStart (character : Char) : Bool :=
  character.isAlpha || character == '_'

/-- Whether a character may stand in a name. -/
def isNameCharacter (character : Char) : Bool :=
  character.isAlphanum || character == '_'

/-- Whether a text is the name of a variable. -/
def isName (text : String) : Bool :=
  match text.toList with
  | [] => false
  | first :: rest => isNameStart first && rest.all isNameCharacter

/-- The characters of a word that holds nothing but plain ones. -/
def Word.plain? : Word → Option String
  | [.plain text] => some text
  | _ => none

end DecompileServer.Program

import DecompileServer.Program.Expression

/-!
# Rules for records

A text is taken apart into records and these into fields. Rules say what is done with records: each has
a pattern and an action.
-/
namespace DecompileServer.Program.Awk

/-- What has a value. -/
inductive Term where
  /-- A number. -/
  | number (value : Float)
  /-- A text. -/
  | text (value : String)
  /-- Whether the record matches an expression. -/
  | expression (value : Expression)
  /-- What a name stands for. -/
  | name (name : String)
  /-- A field; that of number zero is the record. -/
  | field (index : Term)
  /-- An element of an array. -/
  | element (array : String) (index : List Term)
  /-- An assignment, perhaps with an operator. -/
  | assignment (target : Term) (operator : String) (value : Term)
  /-- A step up or down, whose value is that before or after it. -/
  | step (target : Term) (isUp isAfter : Bool)
  /-- An operator with one operand. -/
  | unary (operator : String) (operand : Term)
  /-- An operator with two operands. -/
  | binary (operator : String) (left right : Term)
  /-- The one or the other. -/
  | choice (condition first second : Term)
  /-- Whether an array has an element. -/
  | membership (index : List Term) (array : String)
  /-- A function of terms. -/
  | call (name : String) (arguments : List Term)
  /-- Terms in parentheses. -/
  | group (members : List Term)

/-- How an action is left before its end. -/
inductive Leaving where
  /-- Goes on with the next record. -/
  | next
  /-- Goes on behind a loop. -/
  | break
  /-- Goes on with the next round of a loop. -/
  | continue
  /-- Ends everything with a status. -/
  | exit (status : Option Nat)
  deriving DecidableEq, Repr

/-- A step of an action. -/
inductive Statement where
  /-- The value of a term is found and forgotten. -/
  | plain (term : Term)
  /-- Values are printed, perhaps by a format, and perhaps into a file, which may be appended to. -/
  | print (isFormatted : Bool) (terms : List Term) (file : Option (Bool × Term))
  /-- The one or the other is done. -/
  | choice (condition : Term) (first second : Statement)
  /-- Something is repeated while a condition holds, which may be asked after it. -/
  | repetition (condition : Term) (body next : Statement) (isLate : Bool)
  /-- Something is done for each index of an array. -/
  | each (name array : String) (body : Statement)
  /-- One after the other. -/
  | block (statements : List Statement)
  /-- An element or all of an array is taken away. -/
  | delete (array : String) (index : List Term)
  /-- The action is left. -/
  | leave (how : Leaving)
  /-- Everything ends with a status that is the value of a term. -/
  | exit (status : Term)

/-- When a rule applies. -/
inductive Occasion where
  /-- Before all records. -/
  | start
  /-- After all records. -/
  | finish
  /-- At each record. -/
  | always
  /-- At each record for which a condition holds. -/
  | condition (term : Term)
  /-- From a record for which a condition holds to one for which another does. -/
  | range (first last : Term)

/-- A rule. -/
structure Rule where
  /-- When it applies. -/
  occasion : Occasion
  /-- What is done. -/
  action : Statement

end DecompileServer.Program.Awk

import DecompileServer.Text.Pieces

/-!
# Levels of the log

A line is written to the log if its level is at most as verbose as the level of the log.
-/
namespace DecompileServer

/-- A level of the log, from the least verbose on. -/
inductive Level where
  /-- Faults of the server. -/
  | error
  /-- What may surprise. -/
  | warn
  /-- What happens to sessions and requests. -/
  | info
  /-- Single messages. -/
  | debug
  /-- Everything. -/
  | trace
  deriving DecidableEq, Repr

namespace Level

/-- The levels under their names, the most verbose one first. -/
def named : List (String × Level) :=
  [("trace", .trace), ("debug", .debug), ("info", .info), ("warn", .warn), ("error", .error)]

/-- The names of all levels. -/
def names : List String := named.map (·.1)

/-- How verbose a level is. -/
def verbosity : Level → Nat
  | .error => 1
  | .warn => 2
  | .info => 3
  | .debug => 4
  | .trace => 5

/-- The level of a name in any letter case. -/
def ofName? (name : String) : Option Level :=
  (named.find? fun entry => Text.equalsIgnoringCase entry.1 name).map (·.2)

end Level

end DecompileServer

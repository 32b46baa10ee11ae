import DecompileServer.Log.Level

/-!
# Lines of the log

A line is written by a part of the server at a level and carries named fields. The parts have names
that begin with the name of the part around them.
-/
namespace DecompileServer.Log

/-- A line of the log, as far as it matters for whether it is written. -/
structure Line where
  /-- The part of the server that writes it. -/
  part : String
  /-- The level. -/
  level : Level
  /-- The names of the fields. -/
  fields : List String
  deriving DecidableEq, Repr

/-- The name of the whole server. -/
def server : String := "java_decompiler_mcp"

/-- The name of the part that answers clients. -/
def clients : String := server ++ "::mcp"

/-- The name of the part that decompiles. -/
def decompiling : String := server ++ "::decompiler"

/-- A line with a message and further fields. -/
def Line.of (part : String) (level : Level) (further : List String) : Line :=
  ⟨part, level, "message" :: further⟩

end DecompileServer.Log

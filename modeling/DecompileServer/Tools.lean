import DecompileServer.Decompiler
import DecompileServer.Json.Value

/-!
# Tools

The server offers three tools, one for each way of naming a class. The result of a call is one text:
the source text, or a message that begins with `Error: `. Only a well-formed call reaches the service,
and it does so once; where the service breaks down, the call has no result.
-/
namespace DecompileServer

/-- The result of a call of a tool. -/
structure ToolResult where
  /-- The text. -/
  text : String
  /-- Whether the call failed. -/
  isError : Bool
  deriving DecidableEq, Repr

namespace ToolResult

/-- The result of a call that succeeded. -/
def ofSource (source : String) : ToolResult := ⟨source, false⟩

/-- The result of a call that failed. -/
def ofError (message : String) : ToolResult := ⟨"Error: " ++ message, true⟩

/-- The result as it is sent. -/
def toJson (result : ToolResult) : Json.Value :=
  let content := Json.Value.array [.ofMembers [("type", .string "text"), ("text", .string result.text)]]
  .ofMembers (("content", content) :: if result.isError then [("isError", .boolean true)] else [])

end ToolResult

namespace Tools

/-- Why a call of a tool does not reach the service. -/
inductive CallFault where
  /-- There is no such tool. -/
  | unknownTool (name : String)
  /-- A text that the tool needs is missing. -/
  | missing (argument : String)
  /-- The classpath is not an array. -/
  | classpathShape
  /-- The classpath holds something other than a text. -/
  | classpathEntry
  deriving DecidableEq, Repr

/-- The wording of a fault. -/
def CallFault.message : CallFault → String
  | .unknownTool name => "Unknown tool: " ++ name
  | .missing argument => "Missing " ++ argument ++ " parameter"
  | .classpathShape => "classpath must be an array of strings"
  | .classpathEntry => "classpath entries must be strings"

/-- The text under a key, if it is one and not empty. -/
def textArgument? (arguments : Json.Value) (key : String) : Option String :=
  (arguments.member? key).bind Json.Value.string? |>.filter (· ≠ "")

/-- The text under a key that a tool needs. -/
def textArgument (arguments : Json.Value) (key : String) : Except CallFault String :=
  match textArgument? arguments key with
  | some text => .ok text
  | none => .error (.missing key)

/-- The entries of a classpath. -/
def classpathEntries : List Json.Value → Except CallFault (List Path)
  | [] => .ok []
  | .string text :: rest => (classpathEntries rest).map (⟨text⟩ :: ·)
  | _ :: _ => .error .classpathEntry

/-- The classpath of a call; none given is an empty one. -/
def classpathArgument (arguments : Json.Value) : Except CallFault (List Path) :=
  match arguments.member? "classpath" with
  | none | some .null => .ok []
  | some (.array entries) => classpathEntries entries
  | some _ => .error .classpathShape

/-- The target that a call asks for. -/
def targetOf (name : String) (arguments : Json.Value) : Except CallFault Target :=
  match name with
  | "decompile-from-path" => do
    let path ← textArgument arguments "classFilePath"
    pure (.file ⟨path⟩)
  | "decompile-from-package" => do
    let packageName ← textArgument arguments "packageName"
    let classpath ← classpathArgument arguments
    pure (.onClasspath packageName classpath)
  | "decompile-from-jar" => do
    let archive ← textArgument arguments "jarFilePath"
    pure (.inArchive ⟨archive⟩ (textArgument? arguments "className"))
  | _ => throw (.unknownTool name)

/-- The result of a call for what the service answers, unless it breaks down. -/
def resultOf (answer : Except StageFailure String) : Option ToolResult :=
  match answer with
  | .ok source => some (.ofSource source)
  | .error failed => if failed.failure.isBreakdown then none else some (.ofError failed.message)

/-- Calls a tool. -/
def call (service : Service) (name : String) (arguments : Json.Value) (host : Host) :
    Option ToolResult × Host :=
  match targetOf name arguments with
  | .error fault => (some (.ofError fault.message), host)
  | .ok target =>
    let (answer, after) := (service target).run host
    (resultOf answer, after)

/-- The description of a text argument. -/
def textSchema (description : String) : Json.Value :=
  .ofMembers [("type", .string "string"), ("description", .string description)]

/-- The description of a tool: its name, what it does, its arguments and the one that it needs. -/
def definition (name description : String) (arguments : List (String × Json.Value))
    (needed : String) : Json.Value :=
  .ofMembers
    [("name", .string name), ("description", .string description),
      ("inputSchema", .ofMembers
        [("type", .string "object"), ("properties", .ofMembers arguments),
          ("required", .array [.string needed])])]

/-- The descriptions of all tools. -/
def definitions : Json.Value :=
  .array
    [definition "decompile-from-path" "Decompiles a Java .class file from a given file path"
        [("classFilePath", textSchema "Absolute path to the .class file to decompile")]
        "classFilePath",
      definition "decompile-from-package"
        ("Decompiles a Java class from a package name. Searches the given classpath " ++
          "directories in order, then the CLASSPATH environment variable, then the " ++
          "working directory.")
        [("packageName", textSchema "Fully qualified class name, e.g. com.example.MyClass"),
          ("classpath", .ofMembers
            [("type", .string "array"), ("items", .ofMembers [("type", .string "string")]),
              ("description", .string "Directories to search, first match wins")])]
        "packageName",
      definition "decompile-from-jar"
        ("Decompiles a Java class from a JAR file. The whole JAR is extracted so " ++
          "sibling classes can be resolved.")
        [("jarFilePath", textSchema "Path to the .jar file"),
          ("className", textSchema "Fully qualified name of the class inside the JAR (required)")]
        "jarFilePath"]

end Tools

end DecompileServer

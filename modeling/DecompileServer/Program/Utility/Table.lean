import DecompileServer.Program.Awk.Acting
import DecompileServer.Program.Utility.Coding
import DecompileServer.Program.Utility.Editing
import DecompileServer.Program.Utility.Filtering
import DecompileServer.Program.Utility.Reading
import DecompileServer.Program.Utility.Storing
import DecompileServer.Program.Utility.Wording

/-!
# The programs of a system

The programs by their names, and the directories that they lie in.
-/
namespace DecompileServer.Program.Utility

/-- The programs by their names. -/
def table : List (String × (Call → Written)) :=
  [("cat", cat), ("wc", wc), ("head", head), ("tail", tail), ("tac", tac), ("rev", rev), ("nl", nl),
    ("cksum", cksumOf), ("od", od), ("tr", tr), ("cut", cut), ("paste", paste), ("fold", fold),
    ("sort", sort), ("uniq", uniq), ("grep", grep), ("egrep", egrep), ("fgrep", fgrep),
    ("sed", Editing.sed), ("awk", Awk.awk), ("mawk", Awk.awk), ("basename", basename), ("dirname", dirname), ("expr", expr), ("seq", seq),
    ("echo", echo), ("printf", printf), ("printenv", printenv), ("pwd", pwd), ("test", test), ("[", test),
    ("true", succeed), ("false", failing), ("sleep", sleep), ("yes", yes), ("uname", uname), ("ls", ls),
    ("mkdir", mkdir), ("rmdir", rmdir), ("rm", rm), ("touch", touch), ("cp", cp),
    ("mv", mv), ("tee", tee), ("ln", ln), ("chmod", chmod), ("mktemp", mktemp), ("md5sum", md5sum), ("sha1sum", sha1sum),
    ("sha256sum", sha256sum), ("base64", base64), ("cmp", cmp)]

/-- The names of shells. -/
def shells : List String := ["sh", "dash", "bash"]

/-- The names of programs that run other programs. -/
def runners : List String := ["env", "find", "xargs", "nohup", "nice", "timeout"]

/-- The names of all programs. -/
def names : List String := table.map (·.1) ++ shells ++ runners

/-- The directories that programs lie in. -/
def directories : List String := ["bin", "usr/bin"]

/-- The name of the program at a location, if one lies there. -/
def nameAt? (location : Disk.Location) : Option String :=
  match location.getLast? with
  | some name =>
    if directories.contains ("/".intercalate location.dropLast) && names.contains name then some name
    else none
  | none => none

end DecompileServer.Program.Utility

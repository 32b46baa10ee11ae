import DecompileServer.Program.Shell
import DecompileServer.Program.Utility.Storing

/-!
# Finding files

A search goes through all that is stored at and below some paths and tests each path. Tests may also
show a path, remove what is stored there or run a program on it, so they are made one after the other.
-/
namespace DecompileServer.Program.Finding

open Utility (below lastName pathOf)
open Disk (Node)

/-- A test of `find`. -/
inductive FindTest where
  /-- On the kind of what is stored. -/
  | kind (letter : Char)
  /-- On the name. -/
  | name (ignoresCase : Bool) (pattern : Pattern)
  /-- On the path. -/
  | path (pattern : Pattern)
  /-- On emptiness. -/
  | empty
  /-- Shows the path with a mark behind it. -/
  | show (mark : String)
  /-- Removes the file. -/
  | delete
  /-- Runs a program; the path takes the place of two braces. -/
  | run (words : List String)
  /-- Runs a program on all paths at once. -/
  | runAll (words : List String)
  /-- Holds if the test does not. -/
  | negated (test : FindTest)
  /-- Holds if both tests do. -/
  | both (first second : FindTest)
  /-- Holds if one of the tests does. -/
  | either (first second : FindTest)
  /-- Always holds. -/
  | always

/-- A search of `find` that is being read. -/
structure FindDraft where
  /-- The least depth. -/
  least : Nat := 0
  /-- The greatest depth. -/
  most : Option Nat := none
  /-- Whether something is done with what is found. -/
  acts : Bool := false

/-- A reader of the arguments of `find`. -/
abbrev FindReader := StateT (List String × FindDraft) (Except String)

/-- The next argument, which belongs to the one before. -/
def findValue (name : String) : FindReader String := do
  match ← get with
  | (value :: rest, draft) =>
    set (rest, draft)
    pure value
  | ([], _) => throw ("missing argument to \x60" ++ name ++ "'")

/-- The pattern that a text writes. -/
def patternOf (text : String) : Pattern := Pattern.read (glyphsOf false text)

/-- Reads one test, if the next argument is one. -/
def findTest (inner : FindReader FindTest) (word : String) : FindReader FindTest := do
  match word with
  | "-type" =>
    let value ← findValue word
    match value.toList with
    | [letter] =>
      if ['f', 'd', 'l', 'p', 's', 'b', 'c'].contains letter then pure (.kind letter)
      else throw ("Unknown argument to -type: " ++ value)
    | _ => throw ("Unknown argument to -type: " ++ value)
  | "-name" => do pure (.name false (patternOf (← findValue word)))
  | "-iname" => do pure (.name true (patternOf ((← findValue word).toLower)))
  | "-path" | "-wholename" => do pure (.path (patternOf (← findValue word)))
  | "-empty" => pure .empty
  | "-true" => pure .always
  | "-false" => pure (.negated .always)
  | "-print" =>
    modify fun (rest, draft) => (rest, { draft with acts := true })
    pure (.show "\n")
  | "-print0" =>
    modify fun (rest, draft) => (rest, { draft with acts := true })
    pure (.show "\x00")
  | "-delete" =>
    modify fun (rest, draft) => (rest, { draft with acts := true })
    pure .delete
  | "-exec" | "-execdir" | "-ok" => do
    let (rest, draft) ← get
    let words := rest.takeWhile fun word => word ≠ ";" ∧ word ≠ "+"
    match rest.drop words.length with
    | mark :: rest =>
      set (rest, { draft with acts := true })
      if words.isEmpty then throw ("invalid argument \x60" ++ mark ++ "' to \x60" ++ word ++ "'")
      else pure (if mark = ";" then .run words else .runAll words)
    | [] => throw ("missing argument to \x60" ++ word ++ "'")
  | "-maxdepth" | "-mindepth" =>
    let value ← findValue word
    match value.toNat? with
    | some number =>
      modify fun (rest, draft) =>
        (rest,
          if word = "-maxdepth" then { draft with most := some number }
          else { draft with least := number })
      pure .always
    | none =>
      throw ("Expected a positive decimal integer argument to " ++ word ++ ", but got " ++ quotedName value)
  | "-depth" | "-xdev" | "-mount" => pure .always
  | "!" | "-not" => do pure (.negated (← inner))
  | word => throw ("unknown predicate \x60" ++ word ++ "'")

/-- Reads tests of which one has to hold up to a closing parenthesis. -/
def findTests : Nat → FindReader FindTest
  | 0 => pure .always
  | limit + 1 => do
    let rec single : Nat → FindReader FindTest
      | 0 => pure .always
      | bound + 1 => do
        match ← get with
        | ("(" :: rest, draft) =>
          set (rest, draft)
          let test ← findTests limit
          modify fun (rest, draft) => (rest.drop 1, draft)
          pure test
        | (word :: rest, draft) =>
          set (rest, draft)
          findTest (single bound) word
        | ([], _) => pure .always
    let rec joined : Nat → FindTest → FindReader FindTest
      | 0, before => pure before
      | bound + 1, before => do
        match ← get with
        | ([], _) | (")" :: _, _) => pure before
        | ("-a" :: rest, draft) | ("-and" :: rest, draft) =>
          set (rest, draft)
          joined bound before
        | ("-o" :: rest, draft) | ("-or" :: rest, draft) =>
          set (rest, draft)
          pure (.either before (← findTests limit))
        | _ => do joined bound (.both before (← single limit))
    joined limit .always

/-- The paths at and below a path, with how deep they lie. -/
def pathsBelow (host : Host) : Nat → Nat → String → List (Nat × String)
  | 0, depth, path => [(depth, path)]
  | limit + 1, depth, path =>
    let inner :=
      if host.isDirectory (pathOf path) then
        (namesAt host path).flatMap fun name => pathsBelow host limit (depth + 1) (below path name)
      else []
    (depth, path) :: inner

/-- Whether an argument of `find` begins its tests. -/
def beginsTests (word : String) : Bool :=
  word.toList.head? == some '-' || word == "(" || word == "!"

/-- The paths that `find` starts from, and its tests. -/
def findArguments (arguments : List String) : List String × List String :=
  let arguments := arguments.dropWhile fun word => word = "-L" ∨ word = "-H" ∨ word = "-P"
  let starts := arguments.takeWhile fun word => !beginsTests word
  (if starts.isEmpty then ["."] else starts, arguments.drop starts.length)

/-- The paths that are kept for programs that are run at the end, by the words of the programs. -/
abbrev Kept := List (List String × List String)

/-- Keeps a path for a program. -/
def Kept.add (kept : Kept) (words : List String) (path : String) : Kept :=
  if kept.any (·.1 == words) then
    kept.map fun (known, paths) => if known = words then (known, paths ++ [path]) else (known, paths)
  else kept ++ [(words, [path])]

/-- Whether a test holds for a path, with what is kept. `start` runs a program and gives its
status. -/
def FindTest.holds (start : String → List String → Run Nat) (path : String) (node : Node)
    (names : List String) : FindTest → Kept → Run (Bool × Kept)
  | .kind letter, kept => pure (match node with
      | .directory => letter == 'd'
      | .file .. => letter == 'f', kept)
  | .name ignoresCase pattern, kept =>
    let name := lastName path
    pure (pattern.holds (if ignoresCase then name.toLower else name).toList, kept)
  | .path pattern, kept => pure (pattern.holds path.toList, kept)
  | .empty, kept => pure (match node with
      | .directory => names.isEmpty
      | .file content _ => content.isEmpty, kept)
  | .show mark, kept => do
    let _ ← Shell.write 1 (path ++ mark)
    pure (true, kept)
  | .delete, kept => do
    modify fun shell => { shell with host := shell.host.removeAll (pathOf path) }
    pure (true, kept)
  | .run words, kept => do
    match words.map fun word => path.intercalate (word.splitOn "\x7b\x7d") with
    | [] => pure (true, kept)
    | program :: arguments => do pure ((← start program arguments) == 0, kept)
  | .runAll words, kept => pure (true, kept.add words path)
  | .negated test, kept => do
    let (value, kept) ← test.holds start path node names kept
    pure (!value, kept)
  | .both first second, kept => do
    let (value, kept) ← first.holds start path node names kept
    if value then second.holds start path node names kept else pure (false, kept)
  | .either first second, kept => do
    let (value, kept) ← first.holds start path node names kept
    if value then pure (true, kept) else second.holds start path node names kept
  | .always, kept => pure (true, kept)

/-- Tests the paths at and below a path. -/
def findFrom (start : String → List String → Run Nat) (call : Call) (test : FindTest)
    (draft : FindDraft) (path : String) : Run Nat := do
  let host := (← get).host
  match host.nodeAt (pathOf path) with
  | .error fault => do
    Shell.speak (call.name ++ ": " ++ quotedName path ++ ": " ++ reasonOf fault ++ "\n")
    pure 1
  | .ok _ =>
    let all := pathsBelow host (host.tree.entries.length + 1) 0 path
    let chosen := all.filter fun (depth, _) => draft.least ≤ depth && draft.most.all (depth ≤ ·)
    let kept ← chosen.foldlM (fun (kept : Kept) (_, path) => do
      let host := (← get).host
      match host.nodeAt (pathOf path) with
      | .ok node => do pure (← test.holds start path node (namesAt host path) kept).2
      | .error _ => pure kept) []
    for (words, paths) in kept do
      match words.flatMap fun word => if word = "\x7b\x7d" then paths else [word] with
      | [] => pure ()
      | program :: arguments => do let _ ← start program arguments
    pure 0

/-- Finds files. -/
def find (start : String → List String → Run Nat) (call : Call) : Run Nat := do
  let (paths, tests) := findArguments call.arguments
  match (findTests (2 * tests.length + 2)).run (tests, {}) with
  | .error text => do
    Shell.speak (call.name ++ ": " ++ text ++ "\n")
    pure 1
  | .ok (test, (_, draft)) =>
    let test := if draft.acts then test else .both test (.show "\n")
    paths.foldlM (fun status path => do
      pure (max status (← findFrom start call test draft path))) 0

end DecompileServer.Program.Finding

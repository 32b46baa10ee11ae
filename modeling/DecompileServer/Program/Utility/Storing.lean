import DecompileServer.Disk.Temporary
import DecompileServer.Program.Call
import DecompileServer.Program.Pattern
import DecompileServer.Program.Utility.Wording

/-!
# Programs that show or change what is stored

They list, make, copy, move and remove files and directories.
-/
namespace DecompileServer.Program.Utility

open Disk (Node)

/-- The path that an operand writes. -/
def pathOf (operand : String) : Path := ⟨textOf operand⟩

/-- An operand with a name behind it. -/
def below (operand name : String) : String :=
  if operand.toList.getLast? = some '/' then operand ++ name else operand ++ "/" ++ name

/-- Goes through operands, changing the host by each or complaining. -/
def throughPaths (call : Call) (operands : List String) (act : Written → String → Written) :
    Written :=
  operands.foldl act call.nothing

/-! ### Listing -/

/-- What `ls` shows of names: each on a line, those of directories marked perhaps. -/
def namesShown (options : Options) (host : Host) (directory : String) (names : List String) : String :=
  let marked (name : String) : String :=
    let path := if directory = "" then name else below directory name
    match host.nodeAt (pathOf path) with
    | .ok .directory => if options.has 'p' || options.has 'F' then name ++ "/" else name
    | .ok (.file _ true) => if options.has 'F' then name ++ "*" else name
    | _ => name
  let names := if options.has 'r' then names.reverse else names
  let mark := if options.has 'm' then ", " else "\n"
  if names.isEmpty then "" else mark.intercalate (names.map marked) ++ "\n"

/-- The names in a directory that `ls` shows. -/
def visibleNames (options : Options) (host : Host) (directory : String) : List String :=
  let names := namesAt host directory
  if options.has 'a' then "." :: ".." :: names
  else if options.has 'A' then names
  else names.filter fun name => name.toList.head? ≠ some '.'

/-- The directories below a directory that `ls` goes through, with it. -/
def directoriesBelow (options : Options) (host : Host) : Nat → String → List String
  | 0, directory => [directory]
  | limit + 1, directory =>
    let inner := (visibleNames options host directory).filter fun name =>
      name ≠ "." ∧ name ≠ ".." ∧ host.isDirectory (pathOf (below directory name))
    directory :: inner.flatMap fun name => directoriesBelow options host limit (below directory name)

/-- Lists files and what is in directories. -/
def ls (call : Call) : Written :=
  call.withOptions
    { flags := "aAdpFRr1CmltSUknighso", long := [("all", 'a'), ("almost-all", 'A'), ("directory", 'd'),
        ("recursive", 'R'), ("reverse", 'r')] } 2
    fun options =>
      let operands := if options.operands.isEmpty then ["."] else options.operands
      let (found, missing) := operands.partition fun operand => call.host.holds (pathOf operand)
      let written := missing.foldl (fun written operand =>
        match call.host.nodeAt (pathOf operand) with
        | .error fault =>
          written.complain call ("cannot access " ++ quotedName operand ++ ": " ++ reasonOf fault) 2
        | .ok _ => written) call.nothing
      let found := found.mergeSort fun left right => !(decide (right < left))
      let (directories, files) := found.partition fun operand =>
        !options.has 'd' && call.host.isDirectory (pathOf operand)
      let directories := if options.has 'r' then directories.reverse else directories
      let directories :=
        if options.has 'R' then
          directories.flatMap (directoriesBelow options call.host (call.host.tree.entries.length + 1))
        else directories
      let blocks := directories.map fun directory =>
        let names := visibleNames options call.host directory
        let heading :=
          if 1 < operands.length || options.has 'R' then directory ++ ":\n" else ""
        heading ++ namesShown options call.host directory names
      let blocks := if files.isEmpty then blocks else namesShown options call.host "" files :: blocks
      written.say ("\n".intercalate blocks)

/-! ### Making and removing -/

/-- The paths of the directories above a path and of itself, the highest first. -/
def pathsAlong (path : String) : List String :=
  let pieces := (path.toList.splitOn '/').map String.ofList
  ((List.range pieces.length).map fun count => "/".intercalate (pieces.take (count + 1))).filter
    fun path => path ≠ "" && path.toList.getLast? ≠ some '/'

/-- Makes directories. -/
def mkdir (call : Call) : Written :=
  call.withOptions { flags := "pv", valued := "m", long := [("parents", 'p'), ("verbose", 'v')] } 1
    fun options =>
      if options.operands.isEmpty then call.misused "missing operand" 1
      else
        let make (written : Written) (path : String) : Written :=
          match written.host.makeDirectory (pathOf path) with
          | .ok host =>
            let written := { written with host }
            if options.has 'v' then
              written.say (call.name ++ ": created directory " ++ quotedName path ++ "\n")
            else written
          | .error fault =>
            written.complain call
              ("cannot create directory " ++ quotedName path ++ ": " ++ reasonOf fault) 1
        throughPaths call options.operands fun written path =>
          if options.has 'p' then
            let path := String.ofList (withoutSlashes path.toList)
            let missing := (pathsAlong path).filter fun path => !written.host.isDirectory (pathOf path)
            match missing.find? fun path => written.host.isFile (pathOf path) with
            | some file =>
              let fault := if file = path then Disk.Fault.present else .notDirectory
              written.complain call
                ("cannot create directory " ++ quotedName file ++ ": " ++ reasonOf fault) 1
            | none => missing.foldl make written
          else make written path

/-- Removes empty directories. -/
def rmdir (call : Call) : Written :=
  call.withOptions { flags := "pv" } 1 fun options =>
    if options.operands.isEmpty then call.misused "missing operand" 1
    else
      throughPaths call options.operands fun written path =>
        let refuse (reason : String) : Written :=
          written.complain call ("failed to remove " ++ quotedName path ++ ": " ++ reason) 1
        match written.host.nodeAt (pathOf path) with
        | .error fault => refuse (reasonOf fault)
        | .ok (.file ..) => refuse (reasonOf .notDirectory)
        | .ok .directory =>
          if (namesAt written.host path).isEmpty then
            { written with host := written.host.remove (pathOf path) }
          else refuse "Directory not empty"

/-- Removes files, and directories if asked to. -/
def rm (call : Call) : Written :=
  call.withOptions
    { flags := "fridRvI", long := [("force", 'f'), ("recursive", 'r'), ("dir", 'd'), ("verbose", 'v')] } 1
    fun options =>
      if options.operands.isEmpty then
        if options.has 'f' then call.nothing else call.misused "missing operand" 1
      else
        throughPaths call options.operands fun written path =>
          let refuse (reason : String) : Written :=
            written.complain call ("cannot remove " ++ quotedName path ++ ": " ++ reason) 1
          let remove : Written :=
            let written := { written with host := written.host.removeAll (pathOf path) }
            if options.has 'v' then written.say ("removed " ++ quotedName path ++ "\n") else written
          match written.host.nodeAt (pathOf path) with
          | .error fault =>
            if options.has 'f' ∧ (fault = .missing ∨ fault = .notDirectory) then written
            else refuse (reasonOf fault)
          | .ok (.file ..) => remove
          | .ok .directory =>
            if options.has 'r' || options.has 'R' then remove
            else if options.has 'd' then
              if (namesAt written.host path).isEmpty then remove else refuse "Directory not empty"
            else refuse (reasonOf .isDirectory)

/-- Makes files that are not there. -/
def touch (call : Call) : Written :=
  call.withOptions { flags := "acmh", valued := "drt", long := [("no-create", 'c')] } 1 fun options =>
    if options.operands.isEmpty then call.misused "missing file operand" 1
    else
      throughPaths call options.operands fun written path =>
        if written.host.holds (pathOf path) || options.has 'c' then written
        else
          match written.host.write (pathOf path) [] with
          | .ok host => { written with host }
          | .error fault =>
            written.complain call ("cannot touch " ++ quotedName path ++ ": " ++ reasonOf fault) 1

/-! ### Copying and moving -/

/-- Copies a file or a directory with all that is in it. -/
def copyNode (host : Host) (source target : String) : Except Disk.Fault Host := do
  let sourceLocation ← host.locate (pathOf source)
  match ← host.nodeAt (pathOf source) with
  | .file content executable =>
    let after ← host.write (pathOf target) content
    if host.isFile (pathOf target) then pure after
    else
      let location ← after.locate (pathOf target)
      pure { after with tree := after.tree.put location (.file content executable) }
  | .directory =>
    let after ← if host.isDirectory (pathOf target) then pure host
      else host.makeDirectory (pathOf target)
    let location ← after.locate (pathOf target)
    let tree := (host.tree.below sourceLocation).foldl (fun tree (inner, node) =>
      Disk.Tree.put tree (location ++ inner) node) after.tree
    pure { after with tree }

/-- Copies or moves, by how one path is put at another. -/
def transfer (call : Call) (options : Options)
    (put : Written → String → String → Written) : Written :=
  match options.operands.reverse with
  | [] => call.misused "missing file operand" 1
  | [only] => call.misused ("missing destination file operand after " ++ quotedName only) 1
  | last :: sources =>
    let isInto := call.host.isDirectory (pathOf last) && !options.has 'T'
    match sources, isInto with
    | [source], false => put call.nothing source last
    | _, false =>
      let reason := match call.host.nodeAt (pathOf last) with
        | .error fault => reasonOf fault
        | .ok _ => reasonOf .notDirectory
      call.nothing.complain call ("target " ++ quotedName last ++ ": " ++ reason) 1
    | sources, true =>
      sources.reverse.foldl (fun written source =>
        put written source (below last (lastName source))) call.nothing

/-- Whether two paths lead to the same place. -/
def isSame (host : Host) (left right : String) : Bool :=
  match host.locate (pathOf left), host.locate (pathOf right) with
  | .ok first, .ok second => first == second
  | _, _ => false

/-- Copies files, and directories if asked to. -/
def cp (call : Call) : Written :=
  call.withOptions
    { flags := "rRafpnTuvdLPH", valued := "t", long := [("recursive", 'r'), ("force", 'f')] } 1
    fun options =>
      transfer call options fun written source target =>
        let isDeep := options.has 'r' || options.has 'R' || options.has 'a'
        match written.host.nodeAt (pathOf source) with
        | .error fault =>
          written.complain call ("cannot stat " ++ quotedName source ++ ": " ++ reasonOf fault) 1
        | .ok .directory =>
          if !isDeep then
            written.complain call ("-r not specified; omitting directory " ++ quotedName source) 1
          else
            match copyNode written.host source target with
            | .ok host => { written with host }
            | .error fault =>
              written.complain call
                ("cannot create directory " ++ quotedName target ++ ": " ++ reasonOf fault) 1
        | .ok (.file ..) =>
          if isSame written.host source target then
            written.complain call
              (quotedName source ++ " and " ++ quotedName target ++ " are the same file") 1
          else
            match copyNode written.host source target with
            | .ok host =>
              let written := { written with host }
              if options.has 'v' then
                written.say (quotedName source ++ " -> " ++ quotedName target ++ "\n")
              else written
            | .error fault =>
              written.complain call
                ("cannot create regular file " ++ quotedName target ++ ": " ++ reasonOf fault) 1

/-- Moves files and directories. -/
def mv (call : Call) : Written :=
  call.withOptions { flags := "finuvT", valued := "t", long := [("force", 'f')] } 1 fun options =>
    transfer call options fun written source target =>
      match written.host.nodeAt (pathOf source) with
      | .error fault =>
        written.complain call ("cannot stat " ++ quotedName source ++ ": " ++ reasonOf fault) 1
      | .ok _ =>
        if isSame written.host source target then
          written.complain call
            (quotedName source ++ " and " ++ quotedName target ++ " are the same file") 1
        else
          -- What was there gives way with its own mode.
          let cleared :=
            if written.host.isFile (pathOf target) then written.host.remove (pathOf target)
            else written.host
          match copyNode cleared source target with
          | .ok host => { written with host := host.removeAll (pathOf source) }
          | .error fault =>
            written.complain call
              ("cannot move " ++ quotedName source ++ " to " ++ quotedName target ++ ": " ++
                reasonOf fault) 1

/-- Lets the input through and keeps it in files. -/
def tee (call : Call) : Written :=
  call.withOptions { flags := "aip", long := [("append", 'a')] } 1 fun options =>
    let written := options.operands.foldl (fun written path =>
      let before := if options.has 'a' then (octetsAt written.host path).toOption.getD "" else ""
      match writeOctets written.host path (before ++ call.input) with
      | .ok host => { written with host }
      | .error fault => written.complain call (plainComplaint path fault) 1) call.nothing
    { written.say call.input with readsInput := true }

/-- Links files; a link is a copy. -/
def ln (call : Call) : Written :=
  call.withOptions { flags := "sfnTvr", long := [("symbolic", 's'), ("force", 'f')] } 1 fun options =>
    match options.operands with
    | [] => call.misused "missing file operand" 1
    | source :: rest =>
      let target := rest.headD (lastName source)
      let target :=
        if call.host.isDirectory (pathOf target) then below target (lastName source) else target
      let kind := if options.has 's' then "symbolic " else "hard "
      if call.host.holds (pathOf target) && !options.has 'f' then
        call.nothing.complain call
          ("failed to create " ++ kind ++ "link " ++ quotedName target ++ ": File exists") 1
      else
        match copyNode call.host source target with
        | .ok host => { call.nothing with host }
        | .error fault =>
          if options.has 's' then call.nothing
          else
            call.nothing.complain call
              ("failed to access " ++ quotedName source ++ ": " ++ reasonOf fault) 1

/-- Whether a mode makes files executable, if it is a mode. -/
def modeOf? (mode : String) (isExecutable : Bool) : Option Bool :=
  if mode ≠ "" ∧ mode.toList.all fun digit => '0' ≤ digit ∧ digit ≤ '7' then
    some ((Arithmetic.digitsIn 8 mode.toList).1 &&& 73 != 0)
  else
    (mode.splitOn ",").foldl (fun known clause =>
      known.bind fun isExecutable =>
        let text := clause.toList.dropWhile fun letter => ['u', 'g', 'o', 'a'].contains letter
        match text with
        | sign :: letters =>
          if letters.all fun letter => ['r', 'w', 'x', 'X', 's', 't'].contains letter then
            let hasX := letters.contains 'x'
            match sign with
            | '+' => some (isExecutable || hasX)
            | '-' => some (isExecutable && !hasX)
            | '=' => some hasX
            | _ => none
          else none
        | [] => none) (some isExecutable)

/-- Changes whether files may be run. -/
def chmod (call : Call) : Written :=
  -- A mode may begin with a dash.
  let arguments := match call.arguments with
    | mode :: rest => if (modeOf? mode false).isSome then "--" :: mode :: rest else mode :: rest
    | [] => []
  { call with arguments }.withOptions { flags := "Rvcf" } 1 fun options =>
    match options.operands with
    | [] => call.misused "missing operand" 1
    | [mode] => call.misused ("missing operand after " ++ quotedName mode) 1
    | mode :: paths =>
      if (modeOf? mode false).isNone then call.misused ("invalid mode: " ++ quotedName mode) 1
      else
        throughPaths call paths fun written path =>
          match written.host.nodeAt (pathOf path), written.host.locate (pathOf path) with
          | .ok (.file content isExecutable), .ok location =>
            let node := Node.file content ((modeOf? mode isExecutable).getD false)
            let host := { written.host with tree := written.host.tree.put location node }
            { written with host }
          | .ok _, _ => written
          | .error fault, _ =>
            written.complain call ("cannot access " ++ quotedName path ++ ": " ++ reasonOf fault) 1

/-- Makes a file or a directory of a fresh name. -/
def mktemp (call : Call) : Written :=
  call.withOptions { flags := "duqt", valued := "p" } 1 fun options =>
    let template := options.operands.headD "tmp.XXXXXXXXXX"
    let size := (template.toList.reverse.takeWhile (· == 'X')).length
    if size < 3 then
      call.nothing.complain call ("too few X's in template " ++ quotedName template) 1
    else
      let directory : Path :=
        match options.value? 'p' with
        | some directory => pathOf directory
        | none => if options.operands.isEmpty || options.has 't' then call.host.temporaryPath else ⟨""⟩
      let beginning := textOf (String.ofList (template.toList.take (template.length - size)))
      let root : Path := if directory.text = "" then ⟨"."⟩ else directory
      let path := directory.join (call.host.freshName root beginning)
      let made :=
        if options.has 'u' then .ok call.host
        else if options.has 'd' then call.host.makeDirectory path
        else call.host.write path []
      match made with
      | .ok host => { call.nothing.say (octetsOf path.text ++ "\n") with host }
      | .error fault =>
        let kind := if options.has 'd' then "directory" else "file"
        call.nothing.complain call
          ("failed to create " ++ kind ++ " via template " ++ quotedName template ++ ": " ++
            reasonOf fault) 1

end DecompileServer.Program.Utility

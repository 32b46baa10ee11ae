import DecompileServer.Program.Call
import DecompileServer.Program.Expression
import DecompileServer.Program.Printed

/-!
# Programs that change or choose what they read

Each takes text in, by lines or by characters, and lets a part or a variant of it out.
-/
namespace DecompileServer.Program.Utility

/-! ### Characters -/

/-- The characters that a set for `tr` stands for. A character that is repeated without a number stands
for as many as `size` says. -/
def charactersOf (size : Nat) : Nat → List Char → List Char
  | 0, _ => []
  | _ + 1, [] => []
  | limit + 1, '[' :: character :: '*' :: ']' :: rest =>
    List.replicate size character ++ charactersOf size limit rest
  | limit + 1, '[' :: ':' :: rest =>
    let name := rest.takeWhile Char.isAlpha
    match rest.drop name.length with
    | ':' :: ']' :: after =>
      (((List.range 256).map Char.ofNat).filter (isOfClass (String.ofList name))) ++
        charactersOf size limit after
    | _ => '[' :: charactersOf size limit (':' :: rest)
  | limit + 1, first :: rest =>
    let (character, after) := if first = '\\' then Print.escaped rest else (first, rest)
    let (character, after) := match first, character, after with
      | '\\', '\\', next :: further => if rest.head? = some '\\' then ('\\', after) else (next, further)
      | _, character, after => (character, after)
    match after with
    | '-' :: last :: further =>
      let (last, further) := if last = '\\' then Print.escaped further else (last, further)
      ((List.range (last.toNat + 1 - character.toNat)).map fun step =>
        Char.ofNat (character.toNat + step)) ++ charactersOf size limit further
    | after => character :: charactersOf size limit after

/-- A range in a set whose ends are in the wrong order, if there is one. -/
def reversedRange? : List Char → Option String
  | first :: '-' :: last :: rest =>
    if first ≠ '\\' ∧ last ≠ '\\' ∧ last < first then some (String.ofList [first, '-', last])
    else reversedRange? ('-' :: last :: rest)
  | _ :: rest => reversedRange? rest
  | [] => none

/-- Removes repetitions of characters of a set. -/
def squeezed (set : List Char) : Option Char → List Char → List Char
  | _, [] => []
  | before, character :: rest =>
    if before = some character ∧ set.contains character then squeezed set before rest
    else character :: squeezed set (some character) rest

/-- Replaces or removes characters. -/
def tr (call : Call) : Written :=
  call.withOptions
    { flags := "cCdst", anywhere := false,
      long := [("complement", 'c'), ("delete", 'd'), ("squeeze-repeats", 's'), ("truncate-set1", 't')] } 1
    fun options =>
      let sizes := options.operands.map String.length
      let sets := options.operands.map fun text =>
        charactersOf (sizes.foldl max 0) (text.length + 1) text.toList
      let isInverted := options.has 'c' || options.has 'C'
      let needsTwo := !options.has 'd' && !options.has 's'
      match sets with
      | [] => call.misused "missing operand" 1
      | [_] =>
        if needsTwo then
          call.misused ("missing operand after " ++ quotedName (options.operands.headD "") ++
            "\nTwo strings must be given when translating.") 1
        else run options isInverted sets
      | [_, _] =>
        if options.has 'd' && !options.has 's' then
          call.misused ("extra operand " ++ quotedName (options.operands.getLastD "") ++
            "\nOnly one string may be given when deleting without squeezing repeats.") 1
        else run options isInverted sets
      | _ => call.misused ("extra operand " ++ quotedName ((options.operands[2]?).getD "")) 1
where
  /-- Does what the options say. -/
  run (options : Options) (isInverted : Bool) (sets : List (List Char)) : Written :=
    if let some range := options.operands.findSome? fun text => reversedRange? text.toList then
      call.nothing.complain call
        ("range-endpoints of " ++ quotedName range ++ " are in reverse collating sequence order") 1
    else
    let first := sets.headD []
    let first :=
      if isInverted then ((List.range 256).map Char.ofNat).filter (!first.contains ·) else first
    let text := call.input.toList
    let text :=
      if options.has 'd' then text.filter (!first.contains ·)
      else
        match sets with
        | [_, second] =>
          let replaced (character : Char) : Char :=
            -- Of several places of a character the last counts.
            match (first.reverse.idxOf? character).map fun place => first.length - 1 - place with
            | some place =>
              if options.has 't' ∧ second.length ≤ place then character
              else (second[place]?).getD (second.getLastD character)
            | none => character
          text.map replaced
        | _ => text
    let text :=
      if options.has 's' then squeezed (if sets.length = 2 then sets.getLastD [] else first) none text
      else text
    { call.nothing.say (String.ofList text) with readsInput := true }

/-! ### Columns -/

/-- The ranges of a list of places, each with its first and perhaps its last place. -/
def rangesOf (text : String) : Option (List (Nat × Option Nat)) :=
  ((text.toList.map fun character => if character = ' ' then ',' else character).splitOn ',').mapM
    fun piece =>
      let number (digits : List Char) : Option Nat := (String.ofList digits).toNat?
      match piece.splitOn '-' with
      | [one] => (number one).map fun one => (one, some one)
      | [[], []] => none
      | [first, []] => (number first).map fun first => (first, none)
      | [[], last] => (number last).map fun last => (1, some last)
      | [first, last] => do
        let first ← number first
        let last ← number last
        if last < first then none else some (first, some last)
      | _ => none

/-- Whether a place is in one of some ranges. -/
def isChosen (ranges : List (Nat × Option Nat)) (place : Nat) : Bool :=
  ranges.any fun (first, last) => first ≤ place && last.all (place ≤ ·)

/-- Lets certain columns of lines through. -/
def cut (call : Call) : Written :=
  call.withOptions
    { flags := "snz", valued := "bcdfO",
      long := [("bytes", 'b'), ("characters", 'c'), ("delimiter", 'd'), ("fields", 'f'),
        ("only-delimited", 's'), ("output-delimiter", 'O'), ("complement", 'n')] } 1
    fun options =>
      let list := ((options.value? 'f').orElse fun _ => options.value? 'c').orElse fun _ =>
        options.value? 'b'
      let byFields := options.has 'f'
      match list with
      | none => call.misused "you must specify a list of bytes, characters, or fields" 1
      | some list =>
        let delimiter := ((options.value? 'd').getD "\t")
        if byFields && 1 < delimiter.length then
          call.misused "the delimiter must be a single character" 1
        else
          match rangesOf list with
          | none =>
            let what := if byFields then "field" else "byte/character position"
            call.misused ("invalid " ++ what ++ " " ++ quotedName list) 1
          | some ranges =>
            if ranges.any (·.1 == 0) then
              let what := if byFields then "fields" else "byte/character positions"
              call.misused (what ++ " are numbered from 1") 1
            else
            let mark := (delimiter.toList.headD '\x00')
            let cutLine (line : String) : List String :=
              if byFields then
                let fields := line.toList.splitOn mark
                if fields.length = 1 then (if options.has 's' then [] else [line])
                else
                  let chosen := fields.zipIdx.filter fun (_, place) => isChosen ranges (place + 1)
                  [((options.value? 'O').getD mark.toString).intercalate
                    (chosen.map fun (field, _) => String.ofList field)]
              else
                [String.ofList ((line.toList.zipIdx.filter fun (_, place) =>
                  isChosen ranges (place + 1)).map (·.1))]
            let (text, written) := call.throughFiles options.operands "" plainComplaint 1
              fun before _ content => before ++ ofLines ((bareLines content).flatMap cutLine)
            written.say text

/-- Joins lines side by side, or the lines of each file. -/
def paste (call : Call) : Written :=
  call.withOptions { flags := "s", valued := "d", long := [("serial", 's'), ("delimiters", 'd')] } 1
    fun options =>
      let marks := ((options.value? 'd').getD "\t").toList
      let marks := (Print.unescaped (marks.length + 1) marks).1
      let (columns, written) := call.throughFiles options.operands [] plainComplaint 1
        fun before _ content => before ++ [bareLines content]
      let joined (pieces : List String) : String :=
        (pieces.zipIdx.foldl (fun text (piece, place) =>
          if place = 0 then piece
          else text ++ ((marks[(place - 1) % (max marks.length 1)]?).map Char.toString).getD "" ++ piece) "")
      if options.has 's' then written.say (ofLines (columns.map joined))
      else
        let height := columns.foldl (fun height column => max height column.length) 0
        written.say (ofLines ((List.range height).map fun row =>
          joined (columns.map fun column => column.getD row "")))

/-- The pieces of a line, each as long as a width allows; a piece ends behind a blank if `atBlanks` and
it holds one. -/
def foldedLine (atBlanks : Bool) (width : Nat) : Nat → List Char → List (List Char)
  | 0, line => [line]
  | limit + 1, line =>
    if line.length ≤ width then (if line = [] then [] else [line])
    else
      let piece := line.take width
      let kept := (piece.reverse.dropWhile fun character => !(character == ' ' || character == '\t')).length
      let size := if atBlanks && kept ≠ 0 then kept else width
      line.take size :: foldedLine atBlanks width limit (line.drop size)

/-- Breaks lines at a width. -/
def fold (call : Call) : Written :=
  let arguments := call.arguments.map fun argument =>
    match argument.toList with
    | '-' :: digit :: _ => if digit.isDigit then "-w" ++ argument.drop 1 else argument
    | _ => argument
  { call with arguments }.withOptions { flags := "bs", valued := "w" } 1 fun options =>
    let width := max 1 (((options.value? 'w').bind String.toNat?).getD 80)
    let pieces (line : List Char) : List (List Char) :=
      foldedLine (options.has 's') width (line.length + 1) line
    let (text, written) := call.throughFiles options.operands "" plainComplaint 1
      fun before _ content =>
        before ++ ofLines ((bareLines content).map fun (line : String) =>
          "\n".intercalate ((pieces line.toList).map String.ofList))
    written.say text

/-! ### Order -/

/-- The number at the front of a text, in a form that can be compared: its sign, its digits before
the point and those after it. -/
def leadingNumber (text : List Char) : Int × List Char :=
  let text := text.dropWhile fun character => character == ' ' || character == '\t'
  let (isNegative, digits) := match text with
    | '-' :: digits => (true, digits)
    | digits => (false, digits)
  let whole := digits.takeWhile Char.isDigit
  let places := match digits.drop whole.length with
    | '.' :: rest => rest.takeWhile Char.isDigit
    | _ => []
  let scaled := ((whole ++ (places ++ List.replicate 20 '0').take 20).foldl
    (fun value digit => value * 10 + (digit.toNat - 48)) 0 : Nat)
  (if isNegative then -(scaled : Int) else scaled, places)

/-- A key of lines: its first and last places, and how it is compared. -/
structure SortKey where
  /-- The field where it begins and the place in it. -/
  first : Nat × Nat := (1, 1)
  /-- The field where it ends and the place in it; the end of the field has no place. -/
  last : Option (Nat × Nat) := none
  /-- The letters of its options. -/
  options : List Char := []

/-- Reads a place of a key with the letters after it. -/
def sortPlace? (text : List Char) : Option ((Nat × Nat) × List Char) :=
  let field := text.takeWhile Char.isDigit
  let rest := text.drop field.length
  let (place, rest) := match rest with
    | '.' :: rest => (rest.takeWhile Char.isDigit, rest.dropWhile Char.isDigit)
    | rest => ([], rest)
  match (String.ofList field).toNat? with
  | none => none
  | some number => some ((number, ((String.ofList place).toNat?).getD 0), rest)

/-- Reads a key. -/
def sortKey? (text : String) : Option SortKey :=
  match text.toList.splitOn ',' with
  | [first] => (sortPlace? first).map fun (place, letters) =>
    { first := place, options := letters }
  | [first, last] => do
    let (start, letters) ← sortPlace? first
    let (stop, further) ← sortPlace? last
    some { first := start, last := some stop, options := letters ++ further }
  | _ => none

/-- The fields of a line with what separates them before them. -/
def sortFields (mark : Option Char) (line : List Char) : List (List Char) :=
  match mark with
  | some mark => line.splitOn mark
  | none =>
    line.foldr (fun character fields =>
      let isGap (character : Char) : Bool := character == ' ' || character == '\t'
      match fields with
      | [] => [[character]]
      | (next :: field) :: rest =>
        if !isGap character && isGap next then [character] :: (next :: field) :: rest
        else (character :: next :: field) :: rest
      | [] :: rest => [character] :: rest) []

/-- The part of a line that a key stands for. -/
def SortKey.part (key : SortKey) (mark : Option Char) (line : List Char) : List Char :=
  let fields := sortFields mark line
  let joined (fields : List (List Char)) : List Char :=
    match mark with
    | some mark => [mark].intercalate fields
    | none => fields.flatten
  let before := joined (fields.take (key.first.1 - 1))
  let separator := if mark.isSome ∧ 1 < key.first.1 then 1 else 0
  let start := before.length + separator + (key.first.2 - 1)
  let stop := match key.last with
    | none => line.length
    | some (field, 0) => (joined (fields.take field)).length
    | some (field, place) =>
      (joined (fields.take (field - 1))).length + (if mark.isSome ∧ 1 < field then 1 else 0) + place
  (line.take stop).drop start

/-- Compares two texts in which runs of digits count as numbers. -/
def compareVersions : Nat → List Char → List Char → Ordering
  | 0, _, _ => .eq
  | _ + 1, [], [] => .eq
  | _ + 1, [], _ :: _ => .lt
  | _ + 1, _ :: _, [] => .gt
  | limit + 1, left :: lefts, right :: rights =>
    if left.isDigit && right.isDigit then
      let first := (left :: lefts).takeWhile Char.isDigit
      let second := (right :: rights).takeWhile Char.isDigit
      let number (digits : List Char) : Nat :=
        digits.foldl (fun value digit => value * 10 + (digit.toNat - 48)) 0
      (compare (number first) (number second)).then
        (compareVersions limit ((left :: lefts).drop first.length) ((right :: rights).drop second.length))
    else (compare left.toNat right.toNat).then (compareVersions limit lefts rights)

/-- Compares two texts as letters of options say. -/
def compareBy (letters : List Char) (left right : List Char) : Ordering :=
  let strip (text : List Char) : List Char :=
    if letters.contains 'b' then text.dropWhile fun character => character == ' ' || character == '\t'
    else text
  let left := strip left
  let right := strip right
  let order :=
    if letters.contains 'V' then compareVersions (left.length + right.length + 2) left right
    else if letters.contains 'n' ∨ letters.contains 'g' ∨ letters.contains 'h' then
      compare (leadingNumber left).1 (leadingNumber right).1
    else
      let prepared (text : List Char) : List Nat :=
        let text := if letters.contains 'd' then text.filter fun character =>
          character.isAlphanum || character == ' ' || character == '\t' else text
        text.map fun character => (if letters.contains 'f' then character.toUpper else character).toNat
      compareOfLists (prepared left) (prepared right)
  if letters.contains 'r' then order.swap else order
where
  /-- Compares two lists from the front. -/
  compareOfLists : List Nat → List Nat → Ordering
    | [], [] => .eq
    | [], _ :: _ => .lt
    | _ :: _, [] => .gt
    | left :: lefts, right :: rights => (compare left right).then (compareOfLists lefts rights)

/-- Sorts lines. -/
def sort (call : Call) : Written :=
  call.withOptions
    { flags := "bdfghinrsumcCzVMR", valued := "kotST",
      long := [("reverse", 'r'), ("numeric-sort", 'n'), ("unique", 'u'), ("key", 'k'), ("output", 'o'),
        ("field-separator", 't'), ("stable", 's'), ("ignore-case", 'f'), ("check", 'c'),
        ("ignore-leading-blanks", 'b'), ("dictionary-order", 'd')] } 2
    fun options =>
      let letters := (options.given.map (·.1)).filter fun letter =>
        ['b', 'd', 'f', 'g', 'h', 'n', 'r', 'V'].contains letter
      let mark := (options.value? 't').bind fun text => text.toList.head?
      let keys := ((options.given.filter (·.1 == 'k')).map (·.2)).map sortKey?
      if keys.any Option.isNone then
        call.nothing.complain call "invalid number at field start: invalid count at start of key" 2
      else
        let keys : List SortKey := keys.filterMap id
        let byKeys (left right : List Char) : Ordering :=
          if keys.isEmpty then compareBy letters left right
          else keys.foldl (fun (order : Ordering) (key : SortKey) =>
            let own := if key.options.isEmpty then letters else key.options
            order.then (compareBy own (key.part mark left) (key.part mark right))) .eq
        let compareLines (left right : List Char) : Ordering :=
          let order := byKeys left right
          if options.has 's' || options.has 'u' then order
          else order.then (compareBy (letters.filter (· == 'r')) left right)
        let complaint (operand : String) (fault : Disk.Fault) : String :=
          if fault = .isDirectory then "read failed: " ++ operand ++ ": Is a directory"
          else "cannot read: " ++ operand ++ ": " ++ reasonOf fault
        let (lines, written) := call.throughFiles options.operands [] complaint 2
          fun before _ content => before ++ (bareLines content).map String.toList
        if written.status ≠ 0 then
          { written with errors := "\n".intercalate ((written.errors.splitOn "\n").take 1) ++ "\n" }
        else if options.has 'c' || options.has 'C' then
          let disorder := ((lines.zip (lines.drop 1)).zipIdx).find? fun ((left, right), _) =>
            (compareLines left right == .gt) || (options.has 'u' && compareLines left right == .eq)
          match disorder with
          | none => written
          | some ((_, right), place) =>
            if options.has 'C' then { written with status := 1 }
            else
              written.complain call ((options.operands.headD "-") ++ ":" ++ toString (place + 2) ++
                ": disorder: " ++ String.ofList right) 1
        else
          let sorted := lines.mergeSort fun left right => compareLines left right != .gt
          let sorted :=
            if options.has 'u' then
              sorted.foldl (fun (kept : List (List Char)) line =>
                match kept with
                | last :: _ => if byKeys last line == .eq then kept else line :: kept
                | [] => [line]) [] |>.reverse
            else sorted
          let text := ofLines (sorted.map String.ofList)
          match options.value? 'o' with
          | none => written.say text
          | some path =>
            match writeOctets written.host path text with
            | .ok host => { written with host }
            | .error fault => written.complain call ("open failed: " ++ path ++ ": " ++ reasonOf fault) 2

/-- Drops lines that repeat the one before. -/
def uniq (call : Call) : Written :=
  call.withOptions
    { flags := "cdui", valued := "fsw",
      long := [("count", 'c'), ("repeated", 'd'), ("unique", 'u'), ("ignore-case", 'i')] } 1
    fun options =>
      let key (line : String) : List Char :=
        let text := if options.has 'i' then line.toList.map Char.toLower else line.toList
        let skip (text : List Char) : List Char :=
          (text.dropWhile fun character => character == ' ' || character == '\t').dropWhile fun character =>
            !(character == ' ' || character == '\t')
        let fields := ((options.value? 'f').bind String.toNat?).getD 0
        let text := Nat.repeat skip fields text
        let text := text.drop (((options.value? 's').bind String.toNat?).getD 0)
        match (options.value? 'w').bind String.toNat? with
        | some most => text.take most
        | none => text
      let (lines, written) := call.throughFiles (options.operands.take 1) [] plainComplaint 1
        fun before _ content => before ++ bareLines content
      let groups := lines.foldl (fun (groups : List (String × Nat)) line =>
        match groups with
        | (last, count) :: rest => if key last = key line then (last, count + 1) :: rest
          else (line, 1) :: groups
        | [] => [(line, 1)]) [] |>.reverse
      let chosen := groups.filter fun (_, count) =>
        (!options.has 'd' || 1 < count) && (!options.has 'u' || count == 1)
      let text := ofLines (chosen.map fun (line, count) =>
        if options.has 'c' then
          let digits := Nat.toDigits 10 count
          String.ofList (List.replicate (7 - digits.length) ' ' ++ digits) ++ " " ++ line
        else line)
      match options.operands with
      | [_, path] =>
        match writeOctets written.host path text with
        | .ok host => { written with host }
        | .error fault => written.complain call (path ++ ": " ++ reasonOf fault) 1
      | _ => written.say text

/-! ### Search -/

/-- The expression for a text that stands for itself. -/
def literally (text : String) : Expression :=
  text.toList.foldl (fun expression character => .sequence expression (.character character)) .empty

/-- All matches in a line, one behind the other. -/
def allMatches (expression : Expression) (ignoresCase : Bool) (text : Array Char) :
    Nat → Nat → List Expression.Match
  | 0, _ => []
  | limit + 1, start =>
    match expression.search ignoresCase text start with
    | none => []
    | some found =>
      found :: allMatches expression ignoresCase text limit
        (if found.stop = found.start then found.stop + 1 else found.stop)

/-- The files at and below a path. -/
def filesBelow (host : Host) : Nat → String → List String
  | 0, path => [path]
  | limit + 1, path =>
    if host.isDirectory ⟨textOf path⟩ then
      (namesAt host path).flatMap fun name =>
        filesBelow host limit (if path.toList.getLast? = some '/' then path ++ name else path ++ "/" ++ name)
    else [path]

/-- How a search shows lines. -/
structure Search where
  /-- The expression. -/
  expression : Expression
  /-- The options. -/
  options : Options
  /-- Whether names of files are shown. -/
  isNamed : Bool
  /-- The number of lines that are shown before a line that is found. -/
  before : Nat
  /-- The number of lines that are shown after a line that is found. -/
  after : Nat

namespace Search

/-- Whether the case of letters does not matter. -/
def ignoresCase (search : Search) : Bool := search.options.has 'i' || search.options.has 'y'

/-- The numbers of the lines that are found, in order. -/
def found (search : Search) (lines : List String) : List Nat :=
  let found := lines.zipIdx.filterMap fun (line, place) =>
    let isFound := (search.expression.search search.ignoresCase line.toList.toArray 0).isSome
    if isFound != search.options.has 'v' then some place else none
  match (search.options.value? 'm').bind String.toNat? with
  | some most => found.take most
  | none => found

/-- What is shown of a line. The mark stands behind the name and the number. -/
def row (search : Search) (name : String) (line : String) (place : Nat) (mark : String) : String :=
  let front := (if search.isNamed then name ++ mark else "") ++
    if search.options.has 'n' then toString (place + 1) ++ mark else ""
  if search.options.has 'o' then
    if search.options.has 'v' || mark ≠ ":" then ""
    else
      let text := line.toList.toArray
      let places := (allMatches search.expression search.ignoresCase text (text.size + 1) 0).filter
        fun one => one.start < one.stop
      String.join (places.map fun one =>
        front ++ String.ofList (text.extract one.start one.stop).toList ++ "\n")
  else front ++ line ++ "\n"

/-- What is shown of lines with those around them. -/
def rows (search : Search) (name : String) (lines : List String) (found : List Nat) : String :=
  let isNear (place : Nat) : Bool := found.any fun one =>
    one ≤ place + search.before && place ≤ one + search.after
  let near := lines.zipIdx.filter fun (_, place) => isNear place
  let (_, text) := near.foldl (fun ((last, text) : Option Nat × String) (line, place) =>
    let isApart := match last with
      | some last => last + 1 < place && search.before + search.after ≠ 0
      | none => false
    let mark := if found.contains place then ":" else "-"
    (some place, text ++ (if isApart then "--\n" else "") ++ search.row name line place mark)) (none, "")
  text

/-- The number of lines that are found in a file, what is shown of it and what is said about it. -/
def shown (search : Search) (operand content : String) : Nat × String × String :=
  let options := search.options
  let name := if operand = "-" then "(standard input)" else operand
  let lines := bareLines content
  let found := search.found lines
  let count := found.length
  let isSummary := ['q', 'l', 'L', 'c'].any options.has
  if options.has 'q' then (count, "", "")
  else if options.has 'l' then (count, if count = 0 then "" else name ++ "\n", "")
  else if options.has 'L' then (count, if count = 0 then name ++ "\n" else "", "")
  else if options.has 'c' then
    (count, (if search.isNamed then name ++ ":" else "") ++ toString count ++ "\n", "")
  else if content.contains '\x00' && !options.has 'a' && !isSummary then
    (count, "", if count = 0 then "" else name ++ ": binary file matches\n")
  else (count, search.rows name lines found, "")

end Search

/-- Searches lines for expressions. -/
def grepWith (isExtended isFixed : Bool) (call : Call) : Written :=
  let spelling : Options.Spelling :=
    { flags := "EFGPchHilLnoqsvwxrRaIzybUT", valued := "efmABC",
      long := [("invert-match", 'v'), ("ignore-case", 'i'), ("count", 'c'), ("line-number", 'n'),
        ("files-with-matches", 'l'), ("files-without-match", 'L'), ("quiet", 'q'), ("silent", 'q'),
        ("only-matching", 'o'), ("extended-regexp", 'E'), ("fixed-strings", 'F'), ("regexp", 'e'),
        ("word-regexp", 'w'), ("line-regexp", 'x'), ("no-messages", 's'), ("with-filename", 'H'),
        ("no-filename", 'h'), ("recursive", 'r'), ("max-count", 'm'), ("text", 'a'),
        ("after-context", 'A'), ("before-context", 'B'), ("context", 'C')] }
  let usage := "Usage: grep [OPTION]... PATTERNS [FILE]...\n" ++
    "Try 'grep --help' for more information.\n"
  match Options.read spelling call.arguments with
  | .error text =>
    { call.nothing with errors := call.name ++ ": " ++ text ++ "\n" ++ usage, status := 2 }
  | .ok options =>
    let given := (options.given.filter (·.1 == 'e')).map (·.2)
    let isListed := options.has 'f'
    let listed := ((options.value? 'f').bind fun name => (call.contentOf name).toOption).getD ""
    let given := given ++ if isListed then bareLines listed else []
    let (patterns, operands) :=
      if given.isEmpty && !isListed then (options.operands.take 1, options.operands.drop 1)
      else (given, options.operands)
    if patterns.isEmpty && !isListed then { call.nothing with errors := usage, status := 2 }
    else
      let isExtended := isExtended || options.has 'E' || options.has 'P'
      let isFixed := (isFixed || options.has 'F') && !options.has 'E'
      let texts := patterns.flatMap fun pattern => pattern.splitOn "\n"
      let wrong := if isFixed then [] else
        (texts.filterMap (Expression.wrong? isExtended)).filter fun text =>
          !isExtended || text = "Unmatched ( or \\(" || text.contains '['
      if let some text := wrong.head? then call.nothing.complain call text 2 else
      let expressions := texts.map fun pattern =>
        let expression := if isFixed then literally pattern else Expression.read isExtended pattern
        if options.has 'x' then .sequence .front (.sequence (.group 0 expression) .back)
        else if options.has 'w' then
          .sequence (.boundary true) (.sequence (.group 0 expression) (.boundary false))
        else expression
      let expression := match expressions with
        | [] => Expression.set false []
        | first :: rest => rest.foldl Expression.alternative first
      let isDeep := options.has 'r' || options.has 'R'
      let isOneFile := operands.length == 1 &&
        !call.host.isDirectory ⟨textOf (operands.headD "")⟩
      let isNamed :=
        ((1 < operands.length || (isDeep && !isOneFile)) && !options.has 'h') || options.has 'H'
      let files (operand : String) : List String :=
        filesBelow call.host (call.host.tree.entries.length + 1) operand
      let operands :=
        if !isDeep then operands
        else if operands.isEmpty then (files ".").map fun path => (path.drop 2).toString
        else operands.flatMap fun operand => if operand = "-" then [operand] else files operand
      let number (letter : Char) : Nat :=
        (((options.value? letter).orElse fun _ => options.value? 'C').bind String.toNat?).getD 0
      let search : Search := { expression, options, isNamed, before := number 'B', after := number 'A' }
      let ((count, text, notes), written) := call.throughFiles operands (0, "", "") plainComplaint 2
        fun (count, text, notes) operand content =>
          let (more, further, note) := search.shown operand content
          let border :=
            if search.before + search.after ≠ 0 && text ≠ "" && further ≠ "" &&
                !(['q', 'l', 'L', 'c'].any options.has) then "--\n" else ""
          (count + more, text ++ border ++ further,
            notes ++ if note = "" then "" else call.name ++ ": " ++ note)
      let written := if options.has 's' then { written with errors := "" } else written
      let written := { written with errors := written.errors ++ notes }
      let status :=
        if written.status ≠ 0 ∧ !(options.has 'q' ∧ count ≠ 0) then 2 else if count = 0 then 1 else 0
      { written.say text with status }

/-- Searches lines for basic expressions. -/
def grep (call : Call) : Written := grepWith false false call

/-- Searches lines for extended expressions. -/
def egrep (call : Call) : Written := grepWith true false { call with name := "grep" }

/-- Searches lines for texts. -/
def fgrep (call : Call) : Written := grepWith false true { call with name := "grep" }

end DecompileServer.Program.Utility

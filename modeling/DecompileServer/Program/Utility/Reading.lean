import DecompileServer.Program.Call
import DecompileServer.Program.Cksum

/-!
# Programs that show or count what they read

Each goes through its operands, or through its input if there are none.
-/
namespace DecompileServer.Program.Utility

/-- Shows files one after the other, perhaps with numbers before their lines. -/
def cat (call : Call) : Written :=
  call.withOptions
    { flags := "benstuvAETn", long := [("number", 'n'), ("number-nonblank", 'b'), ("show-ends", 'E')] } 1
    fun options =>
      let (content, written) := call.throughFiles options.operands "" plainComplaint 1
        fun before _ content => before ++ content
      let withBlanks := options.has 'n' && !options.has 'b'
      let isMarked := options.has 'E' || options.has 'e' || options.has 'A'
      let isPlain := !withBlanks && !options.has 'b' && !isMarked
      if isPlain then written.say content
      else
        let (_, text) := (linesOf content.toList).foldl (fun (number, text) line =>
          let isCounted := withBlanks || (options.has 'b' && line ≠ ['\n'])
          let digits := (Nat.toDigits 10 number)
          let front :=
            if isCounted then List.replicate (6 - digits.length) ' ' ++ digits ++ ['\t'] else []
          let line := if isMarked && line.getLast? = some '\n' then line.dropLast ++ ['$', '\n'] else line
          (if isCounted then number + 1 else number, text ++ String.ofList (front ++ line))) (1, "")
        written.say text

/-- The number of lines, words and octets of a text, and the length of its longest line. -/
def countsOf (content : String) : Nat × Nat × Nat × Nat :=
  let characters := content.toList
  let isGap (character : Char) : Bool :=
    character == ' ' || (9 ≤ character.toNat && character.toNat ≤ 13)
  let (words, _) := characters.foldl (fun (count, inWord) character =>
    if isGap character then (count, false) else (if inWord then count else count + 1, true)) (0, false)
  let longest := (bareLines content).foldl (fun longest line => max longest line.length) 0
  ((characters.filter (· == '\n')).length, words, characters.length, longest)

/-- Counts lines, words and octets. -/
def wc (call : Call) : Written :=
  call.withOptions
    { flags := "clmwL", long := [("lines", 'l'), ("words", 'w'), ("bytes", 'c'), ("chars", 'm')] } 1
    fun options =>
      let isPlain := options.given.isEmpty
      let shown (counts : Nat × Nat × Nat × Nat) : List Nat :=
        let (lines, words, octets, longest) := counts
        (if isPlain || options.has 'l' then [lines] else []) ++
          (if isPlain || options.has 'w' then [words] else []) ++
          (if options.has 'm' then [octets] else []) ++
          (if isPlain || options.has 'c' then [octets] else []) ++
          (if options.has 'L' then [longest] else [])
      let columns := (shown (0, 0, 0, 0)).length
      let (counted, written) := call.throughFiles options.operands [] plainComplaint 1
        fun before operand content => before ++ [(operand, countsOf content)]
      -- A directory is counted as empty.
      let counted := if options.operands.isEmpty then counted
        else options.operands.filterMap fun operand =>
          match counted.find? fun entry => entry.1 = operand with
          | some entry => some entry
          | none =>
            if call.host.isDirectory ⟨textOf operand⟩ then some (operand, (0, 0, 0, 0)) else none
      let totals := counted.foldl (fun (lines, words, octets, longest) (_, counts) =>
        (lines + counts.1, words + counts.2.1, octets + counts.2.2.1, max longest counts.2.2.2))
        (0, 0, 0, 0)
      let isStream (operand : String) : Bool :=
        (operand == "-" && !call.readsFile) || call.host.isDirectory ⟨textOf operand⟩
      let width :=
        if options.operands.length ≤ 1 && columns == 1 then 1
        else
          max (Nat.toDigits 10 totals.2.2.1).length
            (if options.operands.isEmpty && !call.readsFile || options.operands.any isStream then 7 else 1)
      let row (counts : Nat × Nat × Nat × Nat) (name : String) : String :=
        let numbers := (shown counts).map fun count =>
          let digits := Nat.toDigits 10 count
          String.ofList (List.replicate (width - digits.length) ' ' ++ digits)
        " ".intercalate numbers ++ (if name = "" then "" else " " ++ name) ++ "\n"
      let rows := counted.map fun (operand, counts) =>
        row counts (if options.operands.isEmpty then "" else operand)
      let rows := if 1 < options.operands.length then rows ++ [row totals "total"] else rows
      written.say (String.join rows)

/-- A number with a sign, and a letter for a multiple perhaps. -/
def amount? (text : String) : Option (Option Char × Nat) :=
  let (sign, rest) := match text.toList with
    | '-' :: rest => (some '-', rest)
    | '+' :: rest => (some '+', rest)
    | rest => (none, rest)
  let digits := rest.takeWhile Char.isDigit
  let value := digits.foldl (fun value digit => value * 10 + (digit.toNat - 48)) 0
  if digits = [] then none
  else
    match rest.drop digits.length with
    | [] => some (sign, value)
    | ['b'] => some (sign, value * 512)
    | ['k'] | ['K'] => some (sign, value * 1024)
    | ['m'] | ['M'] => some (sign, value * 1048576)
    | _ => none

/-- The arguments in which a dash before a number stands for an option. -/
def withNumberOption : List String → List String
  | [] => []
  | argument :: rest =>
    match argument.toList with
    | '-' :: digit :: _ => if digit.isDigit then ("-n" ++ argument.drop 1) :: rest else argument :: rest
    | _ => argument :: rest

/-- Joins what is shown of several files, with headings between. -/
def withHeadings (options : Options) (shown : List (String × String)) : String :=
  let isHeaded := (1 < options.operands.length && !options.has 'q') || options.has 'v'
  if isHeaded then
    "\n".intercalate (shown.map fun (operand, text) =>
      "==> " ++ (if operand = "-" then "standard input" else operand) ++ " <==\n" ++ text)
  else String.join (shown.map (·.2))

/-- Shows a part of each file. -/
def showPart (call : Call) (allowsNumbers : Bool) (cut : Char → Option Char → Nat → List Char → List Char) : Written :=
  let isNumber := withNumberOption call.arguments ≠ call.arguments
  if isNumber && !allowsNumbers && 2 < call.arguments.length then
    let digits := ((call.arguments.headD "").toList.drop 1)
    call.nothing.complain call ("option used in invalid context -- " ++ String.ofList (digits.take 1)) 1
  else
  let call := { call with arguments := withNumberOption call.arguments }
  call.withOptions
    { flags := "qvfFz", valued := "nc",
      long := [("lines", 'n'), ("bytes", 'c'), ("quiet", 'q'), ("silent", 'q'), ("verbose", 'v')] } 1
    fun options =>
      let unit := if options.has 'c' then 'c' else 'n'
      let given := ((options.value? 'c').orElse fun _ => options.value? 'n').getD "10"
      match amount? given with
      | none =>
        let what := if unit = 'c' then "bytes" else "lines"
        call.nothing.complain call ("invalid number of " ++ what ++ ": " ++ quotedName given) 1
      | some (sign, size) =>
        let complaint (operand : String) (fault : Disk.Fault) : String :=
          if fault = .isDirectory then "error reading " ++ quotedName operand ++ ": Is a directory"
          else "cannot open " ++ quotedName operand ++ " for reading: " ++ reasonOf fault
        let (shown, written) := call.throughFiles options.operands [] complaint 1
          fun before operand content =>
            before ++ [(operand, String.ofList (cut unit sign size content.toList))]
        written.say (withHeadings options shown)

/-- Shows the beginning of each file. -/
def head (call : Call) : Written :=
  showPart call true fun unit sign size content =>
    let take {α : Type} (items : List α) : List α :=
      if sign = some '-' then items.take (items.length - size) else items.take size
    if unit = 'c' then take content else (take (linesOf content)).flatten

/-- Shows the end of each file. -/
def tail (call : Call) : Written :=
  showPart call false fun unit sign size content =>
    let take {α : Type} (items : List α) : List α :=
      if sign = some '+' then items.drop (size - 1) else items.drop (items.length - size)
    if unit = 'c' then take content else (take (linesOf content)).flatten

/-- Shows the lines of each file in reverse order. -/
def tac (call : Call) : Written :=
  call.withOptions { flags := "" } 1 fun options =>
    let complaint (operand : String) (fault : Disk.Fault) : String :=
      "failed to open " ++ quotedName operand ++ " for reading: " ++ reasonOf fault
    let (text, written) := call.throughFiles options.operands [] complaint 1
      fun before _ content => before ++ ((linesOf content.toList).reverse).flatten
    written.say (String.ofList text)

/-- Shows each line backwards. -/
def rev (call : Call) : Written :=
  call.withOptions { flags := "" } 1 fun options =>
    let complaint (operand : String) (fault : Disk.Fault) : String :=
      "cannot open " ++ operand ++ ": " ++ reasonOf fault
    let (text, written) := call.throughFiles options.operands [] complaint 1
      fun before _ content =>
        before ++ ((linesOf content.toList).map fun line =>
          if line.getLast? = some '\n' then line.dropLast.reverse ++ ['\n'] else line.reverse).flatten
    written.say (String.ofList text)

/-- Numbers lines that are not empty. -/
def nl (call : Call) : Written :=
  call.withOptions { flags := "", valued := "b" } 1 fun options =>
    let (content, written) := call.throughFiles options.operands "" plainComplaint 1
      fun before _ content => before ++ content
    let (_, text) := (bareLines content).foldl (fun (number, text) line =>
      if line = "" ∧ options.value? 'b' ≠ some "a" then (number, text ++ "       \n")
      else
        let digits := Nat.toDigits 10 number
        (number + 1, text ++ String.ofList (List.replicate (6 - digits.length) ' ' ++ digits) ++ "\t" ++
          line ++ "\n")) (1, "")
    written.say text

/-- The checksum and the size of each file. -/
def cksumOf (call : Call) : Written :=
  call.withOptions { flags := "" } 1 fun options =>
    let (text, written) := call.throughFiles options.operands "" plainComplaint 1
      fun before operand content =>
        let bytes := toOctets content.toList
        before ++ toString (Program.cksum bytes).toNat ++ " " ++ toString bytes.length ++
          (if options.operands.isEmpty then "" else " " ++ operand) ++ "\n"
    written.say text

/-- Octets in octal numbers or as characters, sixteen in a row. -/
def od (call : Call) : Written :=
  call.withOptions { flags := "bcdoxv", valued := "AtNjw" } 1 fun options =>
    let (content, written) := call.throughFiles options.operands [] plainComplaint 1
      fun before _ content => before ++ content.toList
    let content := match (options.value? 'N').bind amount? with
      | some (_, size) => content.take size
      | none => content
    let padded (width : Nat) (fill : Char) (text : List Char) : List Char :=
      List.replicate (width - text.length) fill ++ text
    let asCharacter (character : Char) : List Char :=
      let names := [('\x00', "\\0"), ('\x07', "\\a"), ('\x08', "\\b"), ('\t', "\\t"), ('\n', "\\n"),
        ('\x0b', "\\v"), ('\x0c', "\\f"), ('\r', "\\r")]
      match names.lookup character with
      | some name => padded 4 ' ' name.toList
      | none =>
        if 32 ≤ character.toNat ∧ character.toNat ≤ 126 then padded 4 ' ' [character]
        else ' ' :: padded 3 '0' (Nat.toDigits 8 character.toNat)
    let base := (options.value? 't').getD
      (if options.has 'c' then "c" else if options.has 'b' then "o1" else if options.has 'x' then "x2"
        else if options.has 'd' then "u2" else "o2")
    let pairs (row : List Char) : List Nat :=
      (List.range ((row.length + 1) / 2)).map fun index =>
        ((row[2 * index]?.map Char.toNat).getD 0) + 256 * ((row[2 * index + 1]?.map Char.toNat).getD 0)
    let shown (row : List Char) : List Char :=
      match base with
      | "c" => row.flatMap asCharacter
      | "o1" => row.flatMap fun character => ' ' :: padded 3 '0' (Nat.toDigits 8 character.toNat)
      | "x1" => row.flatMap fun character => ' ' :: padded 2 '0' (Nat.toDigits 16 character.toNat)
      | "u1" | "d1" => row.flatMap fun character => padded 4 ' ' (Nat.toDigits 10 character.toNat)
      | "x2" | "x" => (pairs row).flatMap fun value => ' ' :: padded 4 '0' (Nat.toDigits 16 value)
      | "u2" => (pairs row).flatMap fun value => padded 6 ' ' (Nat.toDigits 10 value)
      | _ => (pairs row).flatMap fun value => ' ' :: padded 6 '0' (Nat.toDigits 8 value)
    let address (place : Nat) : List Char :=
      match options.value? 'A' with
      | some "n" => []
      | some "d" => padded 7 '0' (Nat.toDigits 10 place)
      | some "x" => padded 6 '0' (Nat.toDigits 16 place)
      | _ => padded 7 '0' (Nat.toDigits 8 place)
    let rows := (List.range ((content.length + 15) / 16)).flatMap fun row =>
      address (16 * row) ++ shown ((content.drop (16 * row)).take 16) ++ ['\n']
    let last := address content.length
    written.say (String.ofList (rows ++ if last = [] then [] else last ++ ['\n']))

end DecompileServer.Program.Utility

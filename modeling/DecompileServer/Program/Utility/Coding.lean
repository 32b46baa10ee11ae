import DecompileServer.Program.Call
import DecompileServer.Program.Digest

/-!
# Programs that encode and compare what they read

Digests and base 64 stand for the octets of files, and two files may be compared.
-/
namespace DecompileServer.Program.Utility

/-- Shows digests of files. -/
def digestOf (digest : List UInt8 → String) (call : Call) : Written :=
  call.withOptions { flags := "btz", long := [("binary", 'b'), ("text", 't'), ("zero", 'z')] } 1 fun options =>
    let (text, written) := call.throughFiles options.operands "" plainComplaint 1
      fun before operand content =>
        let mark := if options.has 'b' then " *" else "  "
        before ++ digest (toOctets content.toList) ++ mark ++ operand ++ "\n"
    written.say text

/-- Shows message digests. -/
def md5sum (call : Call) : Written := digestOf Digest.ofMessage call

/-- Shows secure digests of 160 bits. -/
def sha1sum (call : Call) : Written := digestOf Digest.secureShort call

/-- Shows secure digests of 256 bits. -/
def sha256sum (call : Call) : Written := digestOf Digest.secureLong call

/-- The digits of base 64. -/
def base64Digits : List Char :=
  "ABCDEFGHIJKLMNOPQRSTUVWXYZabcdefghijklmnopqrstuvwxyz0123456789+/".toList

/-- Three octets as four digits. -/
def encoded64 : List Char → List Char
  | [] => []
  | first :: rest =>
    let digit (value : Nat) : Char := (base64Digits[value % 64]?).getD 'A'
    let octet (character : Option Char) : Nat := ((character.map Char.toNat).getD 0)
    let second := rest.head?
    let third := (rest.drop 1).head?
    let value := first.toNat * 65536 + octet second * 256 + octet third
    [digit (value / 262144), digit (value / 4096),
      if second.isSome then digit (value / 64) else '=', if third.isSome then digit value else '='] ++
      encoded64 (rest.drop 2)
termination_by text => text.length
decreasing_by
  simp only [List.length_drop, List.length_cons]
  omega

/-- The octets of digits up to the first character that is none, and whether there is no such character. -/
def decoded64 (digits : List Char) : List Char × Bool :=
  let kept := digits.filter (· ≠ '\n')
  let bare := (kept.reverse.dropWhile (· == '=')).reverse
  let good := bare.takeWhile base64Digits.contains
  let bits := good.flatMap fun digit =>
    (List.range 6).map fun place => (base64Digits.idxOf digit) / Nat.pow 2 (5 - place) % 2
  let octets := (Digest.piecesOf 8 (bits.length + 1) bits).filterMap fun bits =>
    if bits.length = 8 then some (Char.ofNat (bits.foldl (fun value bit => 2 * value + bit) 0)) else none
  (octets, good.length = bare.length)

/-- Encodes or decodes in base 64. -/
def base64 (call : Call) : Written :=
  call.withOptions
    { flags := "di", valued := "w", long := [("decode", 'd'), ("ignore-garbage", 'i'), ("wrap", 'w')] } 1
    fun options =>
      let (content, written) := call.throughFiles (options.operands.take 1) "" plainComplaint 1
        fun before _ content => before ++ content
      if written.status ≠ 0 then written
      else if options.has 'd' then
        let (octets, isWhole) := decoded64 content.toList
        let written := written.say (String.ofList octets)
        if isWhole then written else written.complain call "invalid input" 1
      else
        let digits := encoded64 content.toList
        match ((options.value? 'w').bind String.toNat?).getD 76 with
        | 0 => written.say (String.ofList digits)
        | size =>
          written.say (String.join ((Digest.piecesOf size (digits.length + 1) digits).map fun line =>
            String.ofList line ++ "\n"))

/-- Compares two files. -/
def cmp (call : Call) : Written :=
  call.withOptions { flags := "sb", long := [("silent", 's'), ("quiet", 's')] } 2 fun options =>
    match options.operands with
    | [] =>
      call.nothing.complain call ("missing operand after " ++ quotedName call.name ++ "\n" ++ call.name ++ ": " ++
        call.hint) 2
    | [first] => compared options first "-"
    | first :: second :: _ => compared options first second
where
  /-- Compares files by their names. -/
  compared (options : Options) (first second : String) : Written :=
    match call.contentOf first, call.contentOf second with
    | .error fault, _ => call.nothing.complain call (plainComplaint first fault) 2
    | _, .error fault => call.nothing.complain call (plainComplaint second fault) 2
    | .ok one, .ok other =>
      let same := ((one.toList.zip other.toList).takeWhile fun (left, right) => left == right).length
      let lines := ((one.toList.take same).filter (· == '\n')).length
      if one = other then call.nothing
      else if options.has 's' then { call.nothing with status := 1 }
      else if same < one.length ∧ same < other.length then
        { call.nothing.say (first ++ " " ++ second ++ " differ: char " ++ toString (same + 1) ++ ", line " ++
            toString (lines + 1) ++ "\n") with status := 1 }
      else
        let shorter := if one.length ≤ other.length then first else second
        let place := if same = 0 then " which is empty"
          else " after byte " ++ toString same ++ ", " ++
            (if (one.toList.take same).getLast? = some '\n' then "line " ++ toString lines
              else "in line " ++ toString (lines + 1))
        call.nothing.complain call ("EOF on " ++ shorter ++ place) 1

end DecompileServer.Program.Utility

import DecompileServer.Rpc.Reply
import DecompileServer.Text.Utf8

/-!
# Lines

A stream of bytes is read line by line. A line ends with a newline, which is taken off together with
one carriage return before it; what follows the last newline is a line as it stands, unless it is
empty. Each reply is written as one line.
-/
namespace DecompileServer.Rpc.Lines

/-- The byte that ends a line. -/
def newline : UInt8 := 10

/-- Cuts bytes after the first newline. -/
def cut (bytes : List UInt8) : List UInt8 × List UInt8 :=
  let line := bytes.takeWhile (· ≠ newline)
  match bytes.dropWhile (· ≠ newline) with
  | [] => (line, [])
  | last :: rest => (line ++ [last], rest)

/-- Nothing is lost by the cut. -/
theorem cut_append (bytes : List UInt8) : (cut bytes).1 ++ (cut bytes).2 = bytes := by
  have whole := List.takeWhile_append_dropWhile (p := (· ≠ newline)) (l := bytes)
  unfold cut
  split
  case h_1 ends =>
    rw [ends, List.append_nil] at whole
    simpa using whole
  case h_2 last rest ends =>
    rw [ends] at whole
    simpa using whole

/-- The first line of some bytes holds one at least. -/
theorem cut_nonempty (byte : UInt8) (rest : List UInt8) : (cut (byte :: rest)).1 ≠ [] := by
  unfold cut
  by_cases ends : byte = newline <;> simp [ends]
  split <;> simp

/-- What follows the first line is shorter. -/
theorem length_cut_lt (byte : UInt8) (rest : List UInt8) :
    (cut (byte :: rest)).2.length < (byte :: rest).length := by
  have whole := congrArg List.length (cut_append (byte :: rest))
  have positive := List.length_pos_iff.mpr (cut_nonempty byte rest)
  rw [List.length_append] at whole
  omega

/-- The characters of a line without what ends it. -/
def strip (line : List Char) : List Char :=
  match line.reverse with
  | '\n' :: '\r' :: before => before.reverse
  | '\n' :: before => before.reverse
  | _ => line

/-- The text of a line without what ends it. -/
def textOf (line : List UInt8) : Except Utf8.Fault String :=
  (Utf8.decode line).map fun text => String.ofList (strip text.toList)

/-- The next line and what follows it, unless everything has been read. -/
def read (input : List UInt8) : Option (Except Utf8.Fault String × List UInt8) :=
  match input with
  | [] => none
  | byte :: rest =>
    let (line, further) := cut (byte :: rest)
    some (textOf line, further)

/-- What follows a line is shorter than the input. -/
theorem length_lt_of_read {input further : List UInt8} {line : Except Utf8.Fault String}
    (found : read input = some (line, further)) : further.length < input.length := by
  cases input with
  | nil => simp [read] at found
  | cons byte rest =>
    simp only [read, Option.some.injEq, Prod.mk.injEq] at found
    rw [← found.2]
    exact length_cut_lt byte rest

/-- All lines up to the end or the first fault. -/
def readAll (input : List UInt8) : List (Except Utf8.Fault String) :=
  match _found : read input with
  | none => []
  | some (.error fault, _) => [.error fault]
  | some (.ok line, further) => .ok line :: readAll further
termination_by input.length
decreasing_by exact length_lt_of_read _found

/-- A reply with the newline that ends its line. -/
def write (reply : Reply) : String :=
  reply.text ++ "\n"

end DecompileServer.Rpc.Lines

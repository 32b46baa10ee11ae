/-!
# Signals

The signals that a shell can be sent, with their numbers. The end of a shell counts as one with the
number zero.
-/
namespace DecompileServer.Program.Signal

/-- The names of the signals in the order of their numbers, the end of the shell first. -/
def names : List String :=
  ["EXIT", "HUP", "INT", "QUIT", "ILL", "TRAP", "ABRT", "BUS", "FPE", "KILL", "USR1", "SEGV", "USR2",
    "PIPE", "ALRM", "TERM", "16", "CHLD", "CONT", "STOP", "TSTP", "TTIN", "TTOU", "URG", "XCPU",
    "XFSZ", "VTALRM", "PROF", "WINCH", "IO", "PWR", "SYS"]

/-- The signals as they are listed: those for programs of their own come last, by the places that they have
behind the first of them or before the last. -/
def listed : List String :=
  let places := (List.range 30).map fun place =>
    let place := place + 1
    if place ≤ 15 then "RTMIN+" ++ toString place else "RTMAX-" ++ toString (30 - place)
  "0" :: names.drop 1 ++ ["32", "33", "RTMIN"] ++ places.dropLast ++ ["RTMAX"]

/-- The signal that ends a shell. -/
def exit : String := "EXIT"

/-- The number of a signal. -/
def number (name : String) : Nat := (names.idxOf? name).getD 0

/-- The signal that a text names, by its name or by its number. -/
def named? (text : String) : Option String :=
  if text ≠ "" ∧ text.toList.all Char.isDigit then text.toNat?.bind fun number => names[number]?
  else names.find? (· == text.toUpper)

/-- Whether a signal does nothing to a shell that does not handle it. -/
def isHarmless (name : String) : Bool :=
  ["EXIT", "CHLD", "CONT", "URG", "WINCH"].contains name

/-- What is said of a program that a signal has killed, if anything. -/
def notice? (number : Nat) : Option String :=
  [(1, "Hangup"), (3, "Quit"), (4, "Illegal instruction"), (5, "Trace/breakpoint trap"), (6, "Aborted"),
    (7, "Bus error"), (8, "Floating point exception"), (9, "Killed"), (10, "User defined signal 1"),
    (11, "Segmentation fault"), (12, "User defined signal 2"), (14, "Alarm clock"),
    (15, "Terminated")].lookup number

end DecompileServer.Program.Signal

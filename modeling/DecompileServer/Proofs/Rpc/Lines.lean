import DecompileServer.Proofs.Json.Parsing
import DecompileServer.Proofs.Text.Utf8
import DecompileServer.Rpc.Lines
import DecompileServer.Rpc.Message
import DecompileServer.Text.Blank

/-!
# Messages on a stream

A message without a newline takes one line of a stream. What is read from the line is the message,
without the carriage return that it may end with; this is white space after the message, so it says
the same.
-/
namespace DecompileServer.Rpc

/-- The bytes of a message that can go over a stream: they are text, have no newline and are not
blank. -/
structure Parcel where
  /-- The bytes. -/
  bytes : List UInt8
  /-- The text. -/
  text : String
  /-- The bytes are those of the text. -/
  decoded : Utf8.decode bytes = .ok text
  /-- The bytes stay on one line. -/
  unbroken : Lines.newline ∉ bytes
  /-- The text says something. -/
  visible : Text.isBlankText text = false

namespace Lines

variable {bytes more : List UInt8}

/-- Bytes are cut further back if they hold no newline in front. -/
theorem cut_append_of_notMem (unbroken : newline ∉ bytes) :
    cut (bytes ++ more) = (bytes ++ (cut more).1, (cut more).2) := by
  have each : ∀ byte ∈ bytes, (byte ≠ newline : Bool) = true := by
    intro byte member
    rw [decide_eq_true_eq]
    rintro rfl
    exact unbroken member
  unfold cut
  rw [List.takeWhile_append_of_pos each, List.dropWhile_append_of_pos each]
  split <;> simp

/-- Bytes without a newline are one line with the newline after them. -/
theorem cut_append_newline (unbroken : newline ∉ bytes) :
    cut (bytes ++ newline :: more) = (bytes ++ [newline], more) := by
  have single : cut (newline :: more) = ([newline], more) := by simp [cut]
  rw [cut_append_of_notMem unbroken, single]

/-- Bytes of a text are read from the line that they take, without what ends it. -/
theorem read_append_newline {text : String} (decoded : Utf8.decode bytes = .ok text)
    (unbroken : newline ∉ bytes) : read (bytes ++ newline :: more) =
      some (.ok (String.ofList (strip (text.toList ++ ['\n']))), more) := by
  have single : Utf8.leading newline = .character '\n' := rfl
  have text : textOf (bytes ++ [newline]) = .ok (String.ofList (strip (text.toList ++ ['\n']))) := by
    rw [textOf, Utf8.decode_append single decoded, Except.map, String.toList_ofList]
  have nonempty : bytes ++ newline :: more ≠ [] := by simp
  obtain ⟨first, rest, whole⟩ := List.exists_cons_of_ne_nil nonempty
  rw [whole, read, ← whole, cut_append_newline unbroken]
  dsimp only
  rw [text]

/-- The lines of some bytes are the first one and those of the bytes after it. -/
theorem readAll_of_read {input further : List UInt8} {line : String}
    (found : read input = some (.ok line, further)) : readAll input = .ok line :: readAll further := by
  rw [readAll]
  split
  · rename_i none
    cases found.symm.trans none
  · rename_i failed
    cases found.symm.trans failed
  · rename_i same
    obtain ⟨rfl, rfl⟩ : line = _ ∧ further = _ := by simpa using found.symm.trans same
    rfl

/-- No line is read exactly if there are no bytes. -/
theorem readAll_eq_nil_iff {input : List UInt8} : readAll input = [] ↔ input = [] := by
  cases input with
  | nil => simp [readAll, read]
  | cons byte rest =>
    rw [readAll]
    split
    · rename_i none
      cases none
    all_goals simp

/-- A text without a newline has no byte for one. -/
theorem newline_notMem_encode {text : String} (unbroken : ∀ character ∈ text.toList, character ≠ '\n') :
    newline ∉ Utf8.encode text := by
  intro member
  obtain ⟨character, found, same⟩ := Utf8.exists_of_mem_encode member (by decide)
  refine unbroken character found ?_
  rw [← Char.ofNat_toNat character, ← same]
  rfl

/-- The characters of a line without one carriage return at its end. -/
def withoutCarriage (line : List Char) : List Char :=
  if line.getLast? = some '\r' then line.dropLast else line

/-- What is taken off an ended line is its newline, and a carriage return before it. -/
theorem strip_append_newline (line : List Char) : strip (line ++ ['\n']) = withoutCarriage line := by
  rcases line.eq_nil_or_concat with rfl | ⟨before, last, rfl⟩
  · rfl
  · by_cases carriage : last = '\r' <;> simp [strip, withoutCarriage, carriage]

/-- A line is what is left of it, with a carriage return after it or without. -/
theorem strip_append (characters : List Char) :
    strip (characters ++ ['\n']) = characters ∨
      characters = strip (characters ++ ['\n']) ++ ['\r'] := by
  rw [strip_append_newline, withoutCarriage]
  split
  · rename_i carriage
    exact .inr (List.dropLast_append_getLast? _ carriage).symm
  · exact .inl rfl

end Lines

/-- White space after a message means nothing. -/
theorem Message.ofLine_append {space : Char} (blank : Json.isSpace space = true)
    (characters : List Char) : Message.ofLine (String.ofList (characters ++ [space])) =
      Message.ofLine (String.ofList characters) := by
  unfold Message.ofLine
  obtain same | ⟨⟨first, failed⟩, ⟨second, failed'⟩⟩ := Json.parse_append blank characters
  · rw [same]
  · rw [failed, failed']

namespace Parcel

/-- Whether a text is a message as it stands: it has characters up to code 127 only, but not too
many, no newline and something to be seen. -/
def isPlain (limit : Nat) (text : String) : Bool :=
  let characters := text.toList
  characters.all (fun character => character.toNat ≤ 127 && character != '\n') &&
    !characters.all Text.isBlank && characters.length ≤ limit

variable {limit : Nat} {text : String}

/-- A plain text has characters of one byte, none of them a newline. -/
theorem bounds_of_isPlain (plain : isPlain limit text = true) :
    ∀ character ∈ text.toList, character.toNat ≤ 127 ∧ character ≠ '\n' := by
  simp only [isPlain, Bool.and_eq_true, List.all_eq_true] at plain
  simpa using plain.1.1

/-- The message of a plain text. -/
def ofPlain (text : String) (plain : isPlain limit text = true) : Parcel where
  bytes := Utf8.encode text
  text := text
  decoded := Utf8.decode_encode text
  unbroken := by
    exact Lines.newline_notMem_encode fun character member =>
      (bounds_of_isPlain plain character member).2
  visible := by
    simp only [isPlain, Bool.and_eq_true] at plain
    simpa [Text.isBlankText] using plain.1.2

/-- The message of a plain text is not too long. -/
theorem length_ofPlain (plain : isPlain limit text = true) :
    (ofPlain text plain).bytes.length ≤ limit := by
  change (Utf8.encode text).length ≤ limit
  rw [Utf8.encode_of_ascii fun character member => (bounds_of_isPlain plain character member).1,
    List.length_map]
  simp only [isPlain, Bool.and_eq_true] at plain
  simpa using plain.2

/-- The text of the line that a message takes. -/
def line (parcel : Parcel) : String :=
  String.ofList (Lines.strip (parcel.text.toList ++ ['\n']))

/-- The bytes of a message with the newline that ends its line. -/
def framed (parcel : Parcel) : List UInt8 :=
  parcel.bytes ++ [Lines.newline]

variable (parcel : Parcel)

/-- A message is read from its line. -/
theorem read_framed (more : List UInt8) :
    Lines.read (parcel.framed ++ more) = some (.ok parcel.line, more) := by
  rw [framed, List.append_assoc]
  exact Lines.read_append_newline parcel.decoded parcel.unbroken

/-- A message says the same with and without what is taken off its line. -/
theorem ofLine_line : Message.ofLine parcel.line = Message.ofLine parcel.text := by
  obtain same | carriage := Lines.strip_append parcel.text.toList
  · rw [line, same, String.ofList_toList]
  · have whole : parcel.text =
        String.ofList (Lines.strip (parcel.text.toList ++ ['\n']) ++ ['\r']) := by
      rw [← carriage, String.ofList_toList]
    rw [whole, line]
    exact (Message.ofLine_append rfl _).symm

/-- A line is not blank if its message is not. -/
theorem isBlankText_line : Text.isBlankText parcel.line = false := by
  have visible := parcel.visible
  obtain same | carriage := Lines.strip_append parcel.text.toList
  · rwa [line, same, String.ofList_toList]
  · rw [Text.isBlankText, carriage, List.all_append] at visible
    rw [Text.isBlankText, line, String.toList_ofList]
    simpa [Text.isBlank] using visible

end Parcel

end DecompileServer.Rpc

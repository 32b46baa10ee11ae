import DecompileServer.Proofs.Rpc.Lines

/-!
# Lines of a stream that comes in by pieces

A stream comes in as deliveries of any size, and a line may begin in one and end in a later one. What
is read does not depend on where a delivery ends (`read_arriving`), so the calls for the next line of
a text give what stands between its newlines, and nothing from then on (`lines_of_text`).
-/
namespace DecompileServer.Rpc.Lines

/-- Some bytes that come in at once. -/
structure Delivery where
  /-- The bytes. -/
  bytes : List UInt8
  /-- There is one at least: that none come in is the end of a stream. -/
  filled : bytes ≠ []

/-- The bytes of deliveries, one after the other. -/
def arriving (deliveries : List Delivery) : List UInt8 :=
  deliveries.flatMap Delivery.bytes

/-- Puts what is left of a delivery back in front of the later ones. -/
def putBack (left : List UInt8) (later : List Delivery) : List Delivery :=
  if filled : left ≠ [] then ⟨left, filled⟩ :: later else later

/-- Takes the bytes up to the first newline, or all that come in if there is none, and leaves the
others. -/
def gather : List Delivery → List UInt8 × List Delivery
  | [] => ([], [])
  | delivery :: later =>
    if newline ∈ delivery.bytes then
      let (line, left) := cut delivery.bytes
      (line, putBack left later)
    else
      let (more, left) := gather later
      (delivery.bytes ++ more, left)

/-- The next line, unless nothing comes in, and what is still to come. -/
def readNext (deliveries : List Delivery) : Option (Except Utf8.Fault String) × List Delivery :=
  let (line, left) := gather deliveries
  (if line = [] then none else some (textOf line), left)

/-- What a call for the next line gives after the given number of such calls. -/
def answer : List Delivery → Nat → Option (Except Utf8.Fault String)
  | deliveries, 0 => (readNext deliveries).1
  | deliveries, earlier + 1 => answer (readNext deliveries).2 earlier

/-- Whether a text is cut at its newlines: into the lines that one ends, and what follows the last
one. -/
structure IsCut (text : List Char) (ended : List (List Char)) (last : List Char) : Prop where
  /-- Nothing is lost. -/
  whole : ended.flatMap (· ++ ['\n']) ++ last = text
  /-- No line holds a newline. -/
  unbroken : ∀ line ∈ ended, '\n' ∉ line
  /-- Neither does what follows. -/
  open_unbroken : '\n' ∉ last

/-- What is to be read of a text that is cut: the lines that are ended, each without the carriage
return before its newline, and what follows as it stands, unless that is nothing. -/
def readings (ended : List (List Char)) (last : List Char) : List String :=
  (ended.map withoutCarriage ++ if last = [] then [] else [last]).map String.ofList

section Deliveries

variable {deliveries : List Delivery} {front back input : List UInt8}

/-- Bytes are cut in front if they hold a newline there. -/
theorem cut_append_of_mem (member : newline ∈ front) :
    cut (front ++ back) = ((cut front).1, (cut front).2 ++ back) := by
  obtain ⟨before, after, rfl, unbroken⟩ := List.eq_append_cons_of_mem member
  rw [List.append_assoc, List.cons_append, cut_append_newline unbroken, cut_append_newline unbroken]

/-- What is put back is still to come. -/
theorem arriving_putBack (left : List UInt8) (later : List Delivery) :
    arriving (putBack left later) = left ++ arriving later := by
  unfold putBack
  split
  · rfl
  · rename_i none
    rw [not_not] at none
    rw [none, List.nil_append]

/-- The bytes up to the first newline are those of the stream, wherever deliveries end. -/
theorem gather_eq (deliveries : List Delivery) :
    (gather deliveries).1 = (cut (arriving deliveries)).1 ∧
      arriving (gather deliveries).2 = (cut (arriving deliveries)).2 := by
  induction deliveries with
  | nil => exact ⟨rfl, rfl⟩
  | cons delivery later ih =>
    have whole : arriving (delivery :: later) = delivery.bytes ++ arriving later := rfl
    rw [gather, whole]
    split
    · rename_i member
      rw [cut_append_of_mem member]
      exact ⟨rfl, arriving_putBack _ later⟩
    · rename_i free
      rw [cut_append_of_notMem free]
      exact ⟨congrArg (delivery.bytes ++ ·) ih.1, ih.2⟩

/-- Nothing comes in exactly if there is no delivery. -/
theorem arriving_eq_nil_iff : arriving deliveries = [] ↔ deliveries = [] := by
  cases deliveries with
  | nil => simp [arriving]
  | cons delivery later => simp [arriving, delivery.filled]

/-- What is read does not depend on where a delivery ends. -/
theorem read_arriving (deliveries : List Delivery) : read (arriving deliveries) =
    (readNext deliveries).1.map fun line => (line, arriving (readNext deliveries).2) := by
  obtain ⟨line, left⟩ := gather_eq deliveries
  rw [readNext]
  dsimp only
  rw [line, left]
  cases incoming : arriving deliveries with
  | nil => rfl
  | cons byte rest =>
    rw [if_neg (cut_nonempty byte rest)]
    rfl

/-- Nothing is read after the end. -/
theorem answer_nil (earlier : Nat) : answer [] earlier = none := by
  induction earlier with
  | zero => rfl
  | succ earlier ih => exact ih

/-- If all lines can be read, so can the first one and those after it. -/
theorem exists_read_of_readAll {line : String} {lines : List String}
    (all : readAll input = (line :: lines).map .ok) :
    ∃ further, read input = some (.ok line, further) ∧ readAll further = lines.map .ok := by
  rw [readAll] at all
  split at all
  · cases all
  · cases all
  · rename_i first further found
    obtain ⟨same, rest⟩ := List.cons.inj all
    exact ⟨further, found.trans (congrArg (fun line => some (line, further)) same), rest⟩

/-- The calls for the next line give the lines of the stream, and nothing from then on. -/
theorem answer_eq {lines : List String} (all : readAll (arriving deliveries) = lines.map .ok)
    (earlier : Nat) : answer deliveries earlier = lines[earlier]?.map .ok := by
  induction lines generalizing deliveries earlier with
  | nil =>
    obtain rfl := arriving_eq_nil_iff.mp (readAll_eq_nil_iff.mp all)
    rw [answer_nil, List.getElem?_nil]
    rfl
  | cons line lines ih =>
    obtain ⟨further, found, rest⟩ := exists_read_of_readAll all
    rw [read_arriving, Option.map_eq_some_iff] at found
    obtain ⟨_, first, same⟩ := found
    obtain ⟨rfl, rfl⟩ := Prod.mk.inj same
    cases earlier with
    | zero => exact first
    | succ earlier => exact ih rest earlier

end Deliveries

section Texts

variable {text line rest last : List Char} {ended : List (List Char)}

/-- Nothing is taken off a line that no newline ends. -/
theorem strip_of_notMem (free : '\n' ∉ line) : strip line = line := by
  have starts : ∀ {before}, line.reverse ≠ '\n' :: before := by
    intro before turned
    exact free (List.mem_reverse.mp (turned ▸ List.mem_cons_self))
  unfold strip
  split
  · rename_i turned
    exact absurd turned starts
  · rename_i turned
    exact absurd turned starts
  · rfl

/-- Characters without a newline have no byte for one. -/
theorem newline_notMem_encode_ofList (free : '\n' ∉ line) :
    newline ∉ Utf8.encode (String.ofList line) := by
  refine newline_notMem_encode fun character member => ?_
  rw [String.toList_ofList] at member
  rintro rfl
  exact free member

/-- An ended line is read, and what follows it is left. -/
theorem read_encode_append (unbroken : '\n' ∉ line) (rest : List Char) :
    read (Utf8.encode (String.ofList (line ++ '\n' :: rest))) =
      some (.ok (String.ofList (withoutCarriage line)), Utf8.encode (String.ofList rest)) := by
  have bytes : Utf8.encode (String.ofList (line ++ '\n' :: rest)) =
      Utf8.encode (String.ofList line) ++ newline :: Utf8.encode (String.ofList rest) := by
    simp only [Utf8.encode, String.toList_ofList, List.flatMap_append, List.flatMap_cons]
    rfl
  rw [bytes, read_append_newline (Utf8.decode_encode _) (newline_notMem_encode_ofList unbroken),
    String.toList_ofList, strip_append_newline]

/-- What no newline ends is read as it stands, unless it is nothing. -/
theorem readAll_encode_of_notMem (free : '\n' ∉ last) :
    readAll (Utf8.encode (String.ofList last)) =
      (if last = [] then [] else [.ok (String.ofList last)]) := by
  split
  · rename_i none
    rw [none]
    exact readAll_eq_nil_iff.mpr rfl
  · rename_i some
    have whole : cut (Utf8.encode (String.ofList last)) = (Utf8.encode (String.ofList last), []) := by
      have all : cut (Utf8.encode (String.ofList last) ++ []) = _ :=
        cut_append_of_notMem (newline_notMem_encode_ofList free)
      simpa [cut] using all
    have filled : Utf8.encode (String.ofList last) ≠ [] := by
      intro none
      have decoded := Utf8.decode_encode (String.ofList last)
      rw [none] at decoded
      exact some (String.ofList_inj.mp (Except.ok.inj decoded).symm)
    obtain ⟨byte, rest, bytes⟩ := List.exists_cons_of_ne_nil filled
    have text : textOf (Utf8.encode (String.ofList last)) = .ok (String.ofList last) := by
      rw [textOf, Utf8.decode_encode, Except.map, String.toList_ofList, strip_of_notMem free]
    have found : read (Utf8.encode (String.ofList last)) = Option.some (.ok (String.ofList last), []) := by
      rw [bytes, read, ← bytes, whole]
      dsimp only
      rw [text]
    rw [readAll_of_read found, readAll_eq_nil_iff.mpr rfl]

/-- The lines that are read of a text are those that it is cut into. -/
theorem readAll_encode (cut : IsCut text ended last) :
    readAll (Utf8.encode (String.ofList text)) = (readings ended last).map .ok := by
  obtain ⟨rfl, unbroken, free⟩ := cut
  induction ended with
  | nil =>
    rw [List.flatMap_nil, List.nil_append, readAll_encode_of_notMem free]
    unfold readings
    split <;> rfl
  | cons line more ih =>
    obtain ⟨first, others⟩ := List.forall_mem_cons.mp unbroken
    have whole : (line :: more).flatMap (· ++ ['\n']) ++ last =
        line ++ '\n' :: (more.flatMap (· ++ ['\n']) ++ last) := by simp
    rw [whole, readAll_of_read (read_encode_append first _), ih others]
    rfl

/-- Every text is cut at its newlines. -/
theorem exists_isCut (text : List Char) : ∃ ended last, IsCut text ended last := by
  induction text with
  | nil => exact ⟨[], [], rfl, by simp, by simp⟩
  | cons character rest ih =>
    obtain ⟨ended, last, rfl, unbroken, free⟩ := ih
    by_cases ends : character = '\n'
    · exact ⟨[] :: ended, last, by simp [ends], List.forall_mem_cons.mpr ⟨by simp, unbroken⟩, free⟩
    · cases ended with
      | nil => exact ⟨[], character :: last, rfl, by simp, by simp [free, Ne.symm ends]⟩
      | cons line more =>
        obtain ⟨first, others⟩ := List.forall_mem_cons.mp unbroken
        refine ⟨(character :: line) :: more, last, by simp, ?_, free⟩
        exact List.forall_mem_cons.mpr ⟨by simp [first, Ne.symm ends], others⟩

/-- Something follows the last newline exactly if there is a text that does not end in one. -/
theorem IsCut.last_ne_nil_iff (cut : IsCut text ended last) :
    last ≠ [] ↔ text ≠ [] ∧ text.getLast? ≠ some '\n' := by
  obtain ⟨rfl, -, free⟩ := cut
  by_cases some : last = []
  · rcases ended.eq_nil_or_concat with rfl | ⟨before, line, rfl⟩ <;> simp [some]
  · have final : last.getLast? ≠ Option.some '\n' := fun ends =>
      free (List.mem_of_getLast? ends)
    simp [some, final]

end Texts

/-- However a text comes in, the calls for the next line give what stands between its newlines, in
order: each line that a newline ends without that and without one carriage return before it, and what
follows the last newline as it stands. There is such a rest exactly if the text is not empty and does
not end in a newline. The calls come to an end, and every later call gives nothing as well. -/
theorem lines_of_text (text : String) (deliveries : List Delivery)
    (whole : arriving deliveries = Utf8.encode text) :
    (∃ ended last, IsCut text.toList ended last) ∧
      ∀ ended last, IsCut text.toList ended last →
        (last ≠ [] ↔ text ≠ "" ∧ text.toList.getLast? ≠ some '\n') ∧
        (∀ earlier, answer deliveries earlier = (readings ended last)[earlier]?.map .ok) ∧
        (∀ earlier, answer deliveries earlier = none ↔ (readings ended last).length ≤ earlier) ∧
        readAll (arriving deliveries) = (readings ended last).map .ok := by
  refine ⟨exists_isCut text.toList, fun ended last cut => ?_⟩
  have all : readAll (arriving deliveries) = (readings ended last).map .ok := by
    have found := readAll_encode cut
    rwa [String.ofList_toList, ← whole] at found
  have filled : text ≠ "" ↔ text.toList ≠ [] := by simp
  refine ⟨?_, answer_eq all, fun earlier => ?_, all⟩
  · rw [filled, cut.last_ne_nil_iff]
  · rw [answer_eq all, Option.map_eq_none_iff, List.getElem?_eq_none_iff]

/-- A text with two carriage returns before a newline, an empty line, and one carriage return at the
end. -/
def carriageText : String := "a\r\r\n\né\r"

/-- The bytes of the text, cut within an end of a line and within a character. -/
def carriageDeliveries : List Delivery :=
  [⟨[97, 13], by decide⟩, ⟨[13], by decide⟩, ⟨[10, 10, 195], by decide⟩, ⟨[169, 13], by decide⟩]

/-- The theorem on that text. -/
theorem lines_of_text_carriage : arriving carriageDeliveries = Utf8.encode carriageText ∧
    IsCut carriageText.toList [['a', '\r', '\r'], []] ['é', '\r'] ∧
    answer carriageDeliveries 0 = some (.ok "a\r") ∧ answer carriageDeliveries 1 = some (.ok "") ∧
    answer carriageDeliveries 2 = some (.ok "é\r") ∧
    ∀ more, answer carriageDeliveries (3 + more) = none := by
  have whole : arriving carriageDeliveries = Utf8.encode carriageText := by decide +kernel
  have cut : IsCut carriageText.toList [['a', '\r', '\r'], []] ['é', '\r'] :=
    ⟨by decide +kernel, by decide, by decide⟩
  obtain ⟨-, answers, silent, -⟩ := (lines_of_text carriageText carriageDeliveries whole).2 _ _ cut
  refine ⟨whole, cut, answers 0, answers 1, answers 2, fun more => (silent _).mpr ?_⟩
  exact Nat.le_add_right 3 more

end DecompileServer.Rpc.Lines

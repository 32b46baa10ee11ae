import DecompileServer.Proofs.ClassFile.Settled

/-!
# How far the reader counts

The reader counts its place in the bytes and the number of the next constant. The place never goes
past the bytes. The number has sixteen bits, and it goes past them in some files: those with the
greatest count whose last number stands for the first half of a long or double constant. There it
starts again from zero. In all other files it is the number of slots that have been filled. Every
slot holds the constant of its number either way.
-/
namespace DecompileServer.ClassFile

section Places

open Reader (IsSettled)

variable {α : Type} {bytes : List UInt8} {cursor : Cursor} {reader : Reader α}

/-- Whether a cursor stands in the given bytes. -/
structure Cursor.Within (cursor : Cursor) (bytes : List UInt8) : Prop where
  /-- It is not past them. -/
  le : cursor.offset ≤ bytes.length
  /-- It has those ahead that begin there. -/
  rest : cursor.rest = bytes.drop cursor.offset

theorem within_start (bytes : List UInt8) : Cursor.Within ⟨0, bytes⟩ bytes :=
  ⟨Nat.zero_le _, rfl⟩

/-- A reader that settles goes on within the bytes, and tells a place within them if it runs out. -/
theorem Cursor.Within.of_settled (within : cursor.Within bytes)
    (settled : IsSettled Fault.IsFinal reader) :
    (∀ value after, reader.run cursor = .ok (value, after) →
      after.Within bytes ∧ cursor.offset ≤ after.offset) ∧
    ∀ place, reader.run cursor = .error (.truncated place) →
      cursor.offset ≤ place ∧ place ≤ bytes.length := by
  obtain ⟨offset, following⟩ := cursor
  obtain ⟨le, rest⟩ := within
  dsimp only at le rest
  have length := congrArg List.length rest
  rw [List.length_drop] at length
  cases settled offset following with
  | takes front behind outcome whole final taken =>
    rw [whole] at length
    rw [whole, taken.run]
    cases outcome with
    | error fault =>
      refine ⟨nofun, ?_⟩
      rintro place ⟨⟩
      exact (final _ rfl).elim
    | ok value =>
      refine ⟨?_, nofun⟩
      rintro _ _ ⟨⟩
      rw [List.length_append] at length
      refine ⟨⟨?_, ?_⟩, Nat.le_add_right _ _⟩
      · dsimp only
        omega
      · dsimp only
        rw [← List.drop_drop, ← rest, whole, List.drop_left]
  | runsOut out =>
    obtain ⟨place, ran, above, below⟩ := out
    rw [ran]
    refine ⟨nofun, ?_⟩
    rintro _ ⟨⟩
    dsimp only at length ⊢
    exact ⟨above, by omega⟩

end Places

section Numbers

variable {bytes rest : List UInt8} {count : UInt16} {filling next : Filling}
  {entries : List Entry} {entry : Entry}

/-- Whether the number of the next constant goes past sixteen bits. -/
def Overflows (bytes : List UInt8) : Prop :=
  ∃ count filling constants after, Reached bytes count filling ∧ filling.index < count ∧
    (readConstant filling.index).run filling.cursor = .ok (constants, after) ∧
    2 ^ 16 ≤ filling.index.toNat + constants.length

/-- Whether the count is the greatest, and the last number is that of a constant which takes two. -/
def HoldsWideLast (bytes : List UInt8) : Prop :=
  ∃ minor major entries entry rest, totalWidth entries = 65533 ∧ entry.width = 2 ∧
    bytes = bytesToPool minor major 65535 (entries ++ [entry]) ++ rest

/-- The place of a state is within the bytes. -/
theorem Filling.Holds.within (holds : filling.Holds bytes count entries) :
    filling.cursor.Within bytes := by
  obtain ⟨⟨minor, major, whole⟩, place, -, -⟩ := holds
  have length := congrArg List.length whole
  rw [List.length_append] at length
  have offset : filling.cursor.offset = (bytesToPool minor major count entries).length := by omega
  refine ⟨by omega, ?_⟩
  rw [offset, whole, List.drop_left]

/-- As many slots are filled as the constants take, and the one with number zero. -/
theorem Filling.Holds.size_eq (holds : filling.Holds bytes count entries) :
    filling.slots.size = 1 + totalWidth entries := by
  rw [← Array.length_toList, holds.slots, List.length_cons, length_flatMap_slots, Nat.add_comm]

/-- Every slot holds the constant of its number. -/
theorem Filling.Holds.getElem?_eq (holds : filling.Holds bytes count entries) {index : Nat}
    (numbered : Numbered entries index entry) : filling.slots[index]? = some entry.kept := by
  rw [← Array.getElem?_toList, holds.slots, numbered.getElem?_eq]

/-- A number that has been right so far goes too far only at the end of the numbers. -/
theorem Filling.Holds.holdsWideLast (holds : filling.Holds bytes count entries)
    (right : filling.index.toNat = filling.slots.size) (more : filling.index < count)
    (ahead : filling.cursor.rest = entry.bytes ++ rest)
    (tooFar : 2 ^ 16 ≤ filling.index.toNat + entry.width) : HoldsWideLast bytes := by
  have below := UInt16.lt_iff_toNat_lt.mp more
  have small := count.toNat_lt
  have size := holds.size_eq
  have wide := entry.width_eq
  obtain rfl : count = 65535 := UInt16.toNat_inj.mp (by
    change count.toNat = 65535
    omega)
  obtain ⟨minor, major, whole⟩ := holds.whole
  refine ⟨minor, major, entries, entry, rest, by omega, by omega, ?_⟩
  rw [whole, ahead]
  simp [bytesToPool]

/-- The number is that of the slots until it goes too far. -/
theorem Reached.index_eq_size (reached : Reached bytes count filling) :
    filling.index.toNat = filling.slots.size ∨ HoldsWideLast bytes := by
  induction reached with
  | start => exact .inl rfl
  | @turn filling next before turn ih =>
    obtain right | wide := ih
    · obtain ⟨more, entry, rest, ahead, rfl⟩ := turn_iff.mp turn
      obtain ⟨entries, holds⟩ := before.exists_holds
      by_cases tooFar : 2 ^ 16 ≤ filling.index.toNat + entry.width
      · exact .inr (holds.holdsWideLast right more ahead tooFar)
      · have narrow : entry.width < 2 ^ 16 := by omega
        left
        rw [Filling.past, UInt16.toNat_add, UInt16.toNat_ofNat_of_lt' narrow, right,
          Nat.mod_eq_of_lt (by omega)]
        simp
    · exact .inr wide

/-- In a file with such a constant the loop comes to its number. -/
theorem exists_reached_last {minor major : UInt16} (total : totalWidth entries = 65533)
    (whole : bytes = bytesToPool minor major 65535 (entries ++ [entry]) ++ rest) :
    ∃ filling, Reached bytes 65535 filling ∧ filling.index = 65534 ∧
      filling.cursor.rest = entry.bytes ++ rest := by
  have parts : bytes = bytesToPool minor major 65535 entries ++ (entry.bytes ++ rest) := by
    simp [whole, bytesToPool]
  have asks : AsksFor 65535 entries := by
    refine asksFor_of_le ?_
    rw [total]
    decide
  obtain ⟨filling, reached, index, ahead, -⟩ := exists_reached_of_asksFor asks parts
  refine ⟨filling, reached, ?_, ahead⟩
  rw [index, total]
  rfl

/-- After such a constant the loop goes on with the number zero, in what follows the constants. -/
theorem exists_reached_zero {minor major : UInt16} (total : totalWidth entries = 65533)
    (two : entry.width = 2)
    (whole : bytes = bytesToPool minor major 65535 (entries ++ [entry]) ++ rest) :
    ∃ filling, Reached bytes 65535 filling ∧ filling.index = 0 ∧ filling.cursor.rest = rest := by
  obtain ⟨filling, reached, last, ahead⟩ := exists_reached_last total whole
  have more : filling.index < 65535 := by
    rw [last]
    decide
  refine ⟨_, reached.turn (turn_iff.mpr ⟨more, entry, rest, ahead, rfl⟩), ?_, rfl⟩
  rw [Filling.past, last, two]
  rfl

/-- The number goes too far exactly in the files with such a constant. -/
theorem overflows_iff : Overflows bytes ↔ HoldsWideLast bytes := by
  constructor
  · rintro ⟨count, filling, constants, after, reached, more, ran, tooFar⟩
    obtain right | wide := reached.index_eq_size
    · obtain ⟨entries, holds⟩ := reached.exists_holds
      obtain ⟨entry, ahead, rfl, -⟩ := exists_entry_of_run_eq_ok ran
      rw [Entry.length_slots] at tooFar
      exact holds.holdsWideLast right more ahead tooFar
    · exact wide
  · rintro ⟨minor, major, entries, entry, rest, total, two, whole⟩
    obtain ⟨⟨index, slots, offset, _⟩, reached, rfl, rfl⟩ := exists_reached_last total whole
    have more : (65534 : UInt16) < 65535 := by decide
    have tooFar : 2 ^ 16 ≤ (65534 : UInt16).toNat + 2 := by decide
    refine ⟨65535, _, _, _, reached, more, entry.takes.run rest, ?_⟩
    rwa [Entry.length_slots, two]

/-- What is right in a state of the loop. -/
structure Filling.IsRight (filling : Filling) (bytes : List UInt8) (count : UInt16) : Prop where
  /-- The place is within the bytes. -/
  within : filling.cursor.Within bytes
  /-- The bytes so far write constants, and each is in the slot of its number. -/
  slots : ∃ entries, filling.Holds bytes count entries ∧
    ∀ index entry, Numbered entries index entry → filling.slots[index]? = some entry.kept
  /-- The number is that of the slots, unless it has gone too far. -/
  index : ¬ HoldsWideLast bytes → filling.index.toNat = filling.slots.size

theorem Reached.isRight (reached : Reached bytes count filling) : filling.IsRight bytes count := by
  obtain ⟨entries, holds⟩ := reached.exists_holds
  exact ⟨holds.within, ⟨entries, holds, fun _ _ => holds.getElem?_eq⟩,
    fun narrow => reached.index_eq_size.resolve_right narrow⟩

/-- Whether a state decides what is read of the file. -/
inductive Filling.Ends (filling : Filling) (bytes : List UInt8) (count : UInt16) : Prop where
  /-- There are no more constants, and the rest is read with those that there are. -/
  | done (last : ¬ filling.index < count)
      (parsed : parse bytes = ((readRest ⟨filling.slots⟩).run filling.cursor).map (·.1))
  /-- The next constant cannot be read. -/
  | failed (fault : Fault)
      (ran : (readConstant filling.index).run filling.cursor = .error fault)
      (parsed : parse bytes = .error fault)

/-- The loop comes to a state that decides. -/
theorem Reached.exists_ends (reached : Reached bytes count filling) :
    ∃ last, Reached bytes count last ∧ last.Ends bytes count := by
  obtain ⟨last, came, ends⟩ := reached.exists_last
  have parsed := came.parse_eq
  by_cases more : last.index < count
  · obtain ⟨fault, ran⟩ := ends.resolve_left (not_not.mpr more)
    rw [fill_more more, bind_assoc, Reader.run_bind, ran] at parsed
    exact ⟨last, came, .failed fault ran parsed⟩
  · rw [fill_done more, pure_bind] at parsed
    exact ⟨last, came, .done more parsed⟩

/-- The reader counts as far as it has to, but in one kind of file. The number of the next constant
goes past sixteen bits exactly where the count is the greatest and the last number is that of a long
or double constant, and then it is zero once more. Otherwise it is the number of the slots in every
state of the loop. Every state is within the bytes and has each constant in the slot of its number,
and the loop comes to one that decides what is read. No reader goes past the bytes. -/
theorem counts_unless_wide_last (bytes : List UInt8) :
    (Overflows bytes ↔ HoldsWideLast bytes) ∧
    (HoldsWideLast bytes → ∃ filling, Reached bytes 65535 filling ∧ filling.index = 0) ∧
    (∀ count filling, Reached bytes count filling → filling.IsRight bytes count) ∧
    (∀ count cursor, opening.run ⟨0, bytes⟩ = .ok (count, cursor) →
      ∃ last, Reached bytes count last ∧ last.Ends bytes count) ∧
    (∀ cursor, cursor.Within bytes → ∀ count taken after,
      (Reader.take count).run cursor = .ok (taken, after) → after.Within bytes) ∧
    (∀ summary after, read.run ⟨0, bytes⟩ = .ok (summary, after) → after.Within bytes) ∧
    (∀ place, parse bytes = .error (.truncated place) → place ≤ bytes.length) := by
  obtain ⟨ends, told⟩ := (within_start bytes).of_settled isSettled_read
  refine ⟨overflows_iff, ?_, fun _ _ => Reached.isRight, fun _ _ opened =>
    (Reached.start opened).exists_ends, ?_, fun _ _ ran => (ends _ _ ran).1, ?_⟩
  · rintro ⟨minor, major, entries, entry, rest, total, two, whole⟩
    obtain ⟨filling, reached, zero, -⟩ := exists_reached_zero total two whole
    exact ⟨filling, reached, zero⟩
  · intro cursor within count taken after ran
    exact ((within.of_settled (Reader.IsSettled.take count)).1 _ _ ran).1
  · intro place truncated
    unfold parse at truncated
    cases ran : read.run ⟨0, bytes⟩ with
    | ok read =>
      rw [ran] at truncated
      cases truncated
    | error fault =>
      rw [ran] at truncated
      cases truncated
      exact (told place ran).2

/-- Constants that take all numbers but the last: a class `A`, and empty texts. -/
def allButLast : List Entry :=
  .text [0x41] (by decide) :: .classNamed 1 :: List.replicate 65531 (.text [] (by decide))

/-- A file with the greatest count and a long constant at the end of its numbers. -/
def wideLast : List UInt8 :=
  bytesToPool 0 52 65535 (allButLast ++ [.plain .long [0, 0, 0, 0, 0, 0, 0, 0] rfl]) ++
    [0, 0x21, 0, 2, 0, 0, 0, 0, 0, 0, 0, 0]

/-- In that file the number goes too far, and what follows the constants is taken for another one,
with the number zero. -/
theorem wide_last_overflows : Overflows wideLast ∧
    (∃ filling, Reached wideLast 65535 filling ∧ filling.index = 0) ∧
    parse wideLast = .error (.unknownTag 0 0) := by
  have total : totalWidth allButLast = 65533 := by
    rw [allButLast, totalWidth_cons, totalWidth_cons, totalWidth_replicate]
    decide
  have two : (Entry.plain .long [0, 0, 0, 0, 0, 0, 0, 0] rfl).width = 2 := rfl
  have whole : wideLast = bytesToPool 0 52 65535 (allButLast ++ [_]) ++ _ := rfl
  obtain ⟨⟨index, slots, offset, _⟩, reached, rfl, rfl⟩ := exists_reached_zero total two whole
  refine ⟨overflows_iff.mpr ⟨0, 52, _, _, _, total, two, whole⟩, ⟨_, reached, rfl⟩, ?_⟩
  have more : (0 : UInt16) < 65535 := by decide
  rw [reached.parse_eq, fill_more more, bind_assoc, Reader.run_bind]
  rfl

end Numbers

end DecompileServer.ClassFile

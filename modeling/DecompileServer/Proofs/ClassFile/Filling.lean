import DecompileServer.Proofs.ClassFile.Layout

/-!
# Filling the constant pool

The constants are read one after the other while the number of the next one is below the number that
the file gives. `fill` is this loop without a bound of its own: the bytes bound it, as each constant
takes one at least. A `Turn` reads one constant, and `Reached` are the states in which the loop
stands before a turn or at its end: there it has read constants for which the count asks (`AsksFor`).
From each of them the rest of the file decides what is read of the whole (`Reached.parse_eq`).
-/
namespace DecompileServer.ClassFile

variable {count index : UInt16} {slots : Array Constant} {offset : Nat} {bytes rest : List UInt8}

section Loop

/-- Reads constants to the end of the pool. -/
def fill (count index : UInt16) (slots : Array Constant) : Reader Pool := fun cursor =>
  readConstants count cursor.rest.length index slots cursor

/-- A turn more than there are bytes makes no difference. -/
theorem readConstants_succ {bound : Nat} {cursor : Cursor} (enough : cursor.rest.length ≤ bound) :
    readConstants count (bound + 1) index slots cursor =
      readConstants count bound index slots cursor := by
  induction bound generalizing index slots cursor with
  | zero =>
    obtain ⟨offset, rest⟩ := cursor
    obtain rfl : rest = [] := List.length_eq_zero_iff.mp (by simpa using enough)
    unfold readConstants
    split
    · rfl
    · rfl
  | succ bound ih =>
    rw [readConstants, readConstants]
    split
    · change (readConstant index).run cursor >>= _ = (readConstant index).run cursor >>= _
      cases ran : (readConstant index).run cursor with
      | error fault => rfl
      | ok read =>
        have less := length_rest_lt_of_run_eq_ok ran
        exact ih (by omega)
    · rfl

/-- Any bound that the bytes do not reach is as good as their number. -/
theorem readConstants_eq_fill {bound : Nat} {cursor : Cursor}
    (enough : cursor.rest.length ≤ bound) :
    readConstants count bound index slots cursor = fill count index slots cursor := by
  obtain ⟨spare, rfl⟩ := Nat.exists_eq_add_of_le enough
  induction spare with
  | zero => rfl
  | succ spare ih =>
    have within := Nat.le_add_right cursor.rest.length spare
    rw [← Nat.add_assoc, readConstants_succ within, ih within]

/-- The pool is read from its count on. -/
theorem readPool_eq : readPool = Reader.u2 >>= fun count => fill count 1 #[.unusable] :=
  rfl

/-- The loop ends when the number of the next constant is not below the count. -/
theorem fill_done (done : ¬ index < count) : fill count index slots = pure ⟨slots⟩ := by
  funext cursor
  unfold fill
  cases cursor.rest.length <;> rw [readConstants, if_neg done]

/-- The loop reads one constant and goes on. -/
theorem fill_more (more : index < count) :
    fill count index slots = readConstant index >>= fun read =>
      fill count (index + .ofNat read.length) (slots ++ read.toArray) := by
  funext cursor
  have enough : cursor.rest.length ≤ cursor.rest.length + 1 := Nat.le_succ _
  rw [← readConstants_eq_fill enough, readConstants, if_pos more]
  change (readConstant index).run cursor >>= _ = (readConstant index).run cursor >>= _
  cases ran : (readConstant index).run cursor with
  | error fault => rfl
  | ok read =>
    have less := length_rest_lt_of_run_eq_ok ran
    exact readConstants_eq_fill (Nat.le_of_lt less)

end Loop

section Parts

/-- Reads what stands before the constants: the magic number, the version and the count. -/
def opening : Reader UInt16 := do
  let number ← Reader.u4
  if number = magic then
    Reader.skip 2
    Reader.skip 2
    Reader.u2
  else throw .badMagic

/-- The name of the class that an index names, if the index is not zero. -/
def Pool.parentName (pool : Pool) (index : UInt16) : Except Fault (Option String) :=
  if index = 0 then .ok none else some <$> pool.className index

/-- Reads the tables that follow the names of a class and of its parent. -/
def readTables (pool : Pool) (declared : String) (parent : Option String) : Reader Summary := do
  let interfaceCount ← Reader.u2
  let _ ← Reader.times (checkInterface pool) interfaceCount.toNat
  let fieldCount ← Reader.u2
  let _ ← Reader.times skipField fieldCount.toNat
  let methodCount ← Reader.u2
  let methods ← Reader.times (readMethod pool) methodCount.toNat
  let names ← pool.classNames
  pure { declared, parent, references := referencesOf declared names, methods }

/-- Reads what follows the constants. -/
def readRest (pool : Pool) : Reader Summary := do
  Reader.skip 2
  let declaredIndex ← Reader.u2
  let parentIndex ← Reader.u2
  let declared ← pool.className declaredIndex
  let parent ← pool.parentName parentIndex
  readTables pool declared parent

/-- A name is looked up only for an index that is not zero. -/
theorem parentName_bind (pool : Pool) (index : UInt16) (next : Option String → Reader Summary) :
    (liftM (pool.parentName index) >>= next : Reader Summary) =
      if index = 0 then pure none >>= next
      else (some <$> liftM (pool.className index)) >>= next := by
  unfold Pool.parentName
  split
  · rfl
  · cases pool.className index <;> rfl

/-- Reads what follows the magic number. -/
def readAfterMagic : Reader Summary := do
  Reader.skip 2
  Reader.skip 2
  readPool >>= readRest

/-- A class file is read after its magic number, and nothing else is. -/
theorem read_eq_magic : read = Reader.u4 >>= fun number =>
    if number = magic then readAfterMagic else throw .badMagic := by
  unfold readAfterMagic readRest
  simp only [parentName_bind]
  refine congrArg (Reader.u4 >>= ·) (funext fun number => ?_)
  by_cases genuine : number = magic
  · rw [if_pos genuine, if_neg (not_not.mpr genuine)]
    rfl
  · rw [if_neg genuine, if_pos genuine]
    rfl

/-- A class file is read as what stands before the constants, the constants and the rest. -/
theorem read_eq :
    read = opening >>= fun count => fill count 1 #[.unusable] >>= readRest := by
  rw [read_eq_magic, opening, bind_assoc]
  refine congrArg (Reader.u4 >>= ·) (funext fun number => ?_)
  by_cases genuine : number = magic
  · simp only [if_pos genuine, readAfterMagic, bind_assoc, readPool_eq]
  · simp only [if_neg genuine]
    rfl

/-- What stands before the constants is taken as the count. -/
theorem takes_opening (minor major count : UInt16) :
    Reader.Takes opening offset (bytesToPool minor major count []) (.ok count) := by
  refine (Reader.takes_u4 magic).bind ?_
  rw [if_pos rfl]
  refine (Reader.takes_skip_of_eq (by simp)).bind ?_
  refine (Reader.takes_skip_of_eq (by simp)).bind ?_
  rw [List.flatMap_nil, List.append_nil]
  exact Reader.takes_u2 count

/-- What is read as the count stands after the magic number and the version. -/
theorem opening_eq_ok {cursor : Cursor} (ran : opening.run ⟨0, bytes⟩ = .ok (count, cursor)) :
    ∃ minor major, bytes = bytesToPool minor major count [] ++ cursor.rest ∧
      cursor.offset = (bytesToPool minor major count []).length := by
  obtain ⟨number, between, magicRead, further⟩ := Reader.run_bind_eq_ok ran
  obtain ⟨behind, rfl, rfl⟩ := Reader.u4_eq_ok magicRead
  by_cases genuine : number = magic
  · rw [if_pos genuine] at further
    obtain ⟨nothing, between, minorRead, further⟩ := Reader.run_bind_eq_ok further
    obtain ⟨minor, behind, rfl, rfl⟩ := Reader.skip_two_eq_ok minorRead
    obtain ⟨nothing, between, majorRead, further⟩ := Reader.run_bind_eq_ok further
    obtain ⟨major, behind, rfl, rfl⟩ := Reader.skip_two_eq_ok majorRead
    obtain ⟨rest, rfl, rfl⟩ := Reader.u2_eq_ok further
    exact ⟨minor, major, by simp [bytesToPool, genuine], by simp [bytesToPool]⟩
  · rw [if_neg genuine] at further
    cases further

end Parts

section Turns

/-- Where the loop stands. -/
structure Filling where
  /-- The number of the next constant. -/
  index : UInt16
  /-- What is kept of the constants so far, from number zero on. -/
  slots : Array Constant
  /-- Where the next constant begins. -/
  cursor : Cursor

/-- Where the loop stands after one more constant, before the given bytes. -/
def Filling.past (filling : Filling) (entry : Entry) (rest : List UInt8) : Filling where
  index := filling.index + .ofNat entry.width
  slots := filling.slots ++ entry.slots.toArray
  cursor := ⟨filling.cursor.offset + entry.bytes.length, rest⟩

/-- The loop reads one constant. -/
inductive Turn (count : UInt16) (filling : Filling) : Filling → Prop where
  | read {constants : List Constant} {after : Cursor} (more : filling.index < count)
      (ran : (readConstant filling.index).run filling.cursor = .ok (constants, after)) :
      Turn count filling ⟨filling.index + .ofNat constants.length,
        filling.slots ++ constants.toArray, after⟩

/-- The states that the loop comes to in the file with the given bytes. -/
inductive Reached (bytes : List UInt8) (count : UInt16) : Filling → Prop where
  /-- The constants begin after the count. -/
  | start {cursor : Cursor} (opened : opening.run ⟨0, bytes⟩ = .ok (count, cursor)) :
      Reached bytes count ⟨1, #[.unusable], cursor⟩
  /-- The loop goes on. -/
  | turn {filling next : Filling} (before : Reached bytes count filling)
      (turn : Turn count filling next) : Reached bytes count next

variable {filling next : Filling} {entry : Entry}

/-- A turn reads the bytes of a constant, and there is one wherever these bytes stand. -/
theorem turn_iff : Turn count filling next ↔
    filling.index < count ∧ ∃ entry rest, filling.cursor.rest = entry.bytes ++ rest ∧
      next = filling.past entry rest := by
  obtain ⟨index, slots, offset, following⟩ := filling
  constructor
  · rintro ⟨more, ran⟩
    obtain ⟨entry, whole, rfl, place⟩ := exists_entry_of_run_eq_ok ran
    refine ⟨more, entry, _, whole, ?_⟩
    simp only [Filling.past, ← place, Entry.length_slots]
  · rintro ⟨more, entry, rest, whole, rfl⟩
    have ran : (readConstant index).run ⟨offset, following⟩ =
        .ok (entry.slots, ⟨offset + entry.bytes.length, rest⟩) := by
      rw [show following = entry.bytes ++ rest from whole]
      exact entry.takes.run rest
    have turned : Turn count ⟨index, slots, offset, following⟩ _ := .read more ran
    rwa [Entry.length_slots] at turned

/-- The rest of the file decides what is read of the whole. -/
theorem Reached.parse_eq (reached : Reached bytes count filling) :
    parse bytes = ((fill count filling.index filling.slots >>= readRest).run filling.cursor).map
      (·.1) := by
  induction reached with
  | start opened =>
    rw [parse, read_eq, Reader.run_bind, opened]
    rfl
  | turn before turn ih =>
    obtain ⟨more, ran⟩ := turn
    rw [ih, fill_more more, bind_assoc, Reader.run_bind, ran]
    rfl

/-- The loop ends, by the count or at a constant that cannot be read. -/
theorem Reached.exists_last (reached : Reached bytes count filling) :
    ∃ last, Reached bytes count last ∧ (¬ last.index < count ∨
      ∃ fault, (readConstant last.index).run last.cursor = .error fault) := by
  -- Each turn leaves fewer bytes.
  induction size : filling.cursor.rest.length using Nat.strongRecOn generalizing filling with
  | ind size ih =>
    by_cases more : filling.index < count
    · cases ran : (readConstant filling.index).run filling.cursor with
      | error fault => exact ⟨filling, reached, .inr ⟨fault, ran⟩⟩
      | ok read =>
        have less := length_rest_lt_of_run_eq_ok ran
        exact ih _ (size ▸ less) (reached.turn (.read more ran)) rfl
    · exact ⟨filling, reached, .inl more⟩

/-- What a state says of the file: the bytes before its cursor write constants, and these are
kept. -/
structure Filling.Holds (filling : Filling) (bytes : List UInt8) (count : UInt16)
    (entries : List Entry) : Prop where
  /-- The bytes so far. -/
  whole : ∃ minor major, bytes = bytesToPool minor major count entries ++ filling.cursor.rest
  /-- The cursor stands after them. -/
  place : filling.cursor.offset + filling.cursor.rest.length = bytes.length
  /-- What they write is kept. -/
  slots : filling.slots.toList = .unusable :: entries.flatMap Entry.slots
  /-- The number of the next constant, as far as it can be counted. -/
  index : filling.index = .ofNat (1 + totalWidth entries)

/-- After a turn one more constant is held. -/
theorem Filling.Holds.turn {entries : List Entry} (holds : filling.Holds bytes count entries)
    (turn : Turn count filling next) : ∃ entry, next.Holds bytes count (entries ++ [entry]) := by
  obtain ⟨⟨minor, major, whole⟩, place, slots, index⟩ := holds
  obtain ⟨-, entry, rest, ahead, rfl⟩ := turn_iff.mp turn
  rw [ahead] at whole place
  refine ⟨entry, ⟨minor, major, ?_⟩, ?_, ?_, ?_⟩
  · simp [whole, bytesToPool, Filling.past]
  · simp only [Filling.past, ← place, List.length_append]
    omega
  · simp [Filling.past, slots]
  · simp [Filling.past, index, ← Nat.add_assoc]

/-- Whether a count asks for each of some constants. The number of the next one has sixteen bits. -/
def AsksFor (count : UInt16) (entries : List Entry) : Prop :=
  ∀ front entry back, entries = front ++ entry :: back →
    UInt16.ofNat (1 + totalWidth front) < count

theorem asksFor_nil : AsksFor count [] := by
  intro front entry back whole
  simp at whole

theorem asksFor_concat {entries : List Entry} : AsksFor count (entries ++ [entry]) ↔
    AsksFor count entries ∧ UInt16.ofNat (1 + totalWidth entries) < count := by
  constructor
  · intro asks
    refine ⟨?_, asks entries entry [] rfl⟩
    rintro front other back rfl
    exact asks front other (back ++ [entry]) (by simp)
  · rintro ⟨asks, last⟩ front other back whole
    obtain rfl | ⟨further, final, rfl⟩ := List.eq_nil_or_concat back
    · obtain ⟨rfl, -⟩ := List.append_inj' whole rfl
      exact last
    · rw [List.concat_eq_append, ← List.cons_append, ← List.append_assoc] at whole
      exact asks front other further (List.append_inj' whole rfl).1

/-- Constants whose numbers are below the count are asked for. -/
theorem asksFor_of_le {entries : List Entry} (fit : 1 + totalWidth entries ≤ count.toNat) :
    AsksFor count entries := by
  rintro front entry back rfl
  have small := count.toNat_lt
  have wide := entry.width_eq
  rw [totalWidth_append, totalWidth_cons] at fit
  have narrow : 1 + totalWidth front < 2 ^ 16 := by omega
  rw [UInt16.lt_iff_toNat_lt, UInt16.toNat_ofNat_of_lt' narrow]
  omega

/-- Every state holds the constants so far, for which the count asks. -/
theorem Reached.exists_asksFor (reached : Reached bytes count filling) :
    ∃ entries, filling.Holds bytes count entries ∧ AsksFor count entries := by
  induction reached with
  | start opened =>
    obtain ⟨minor, major, whole, place⟩ := opening_eq_ok opened
    refine ⟨[], ⟨⟨minor, major, whole⟩, ?_, rfl, rfl⟩, asksFor_nil⟩
    rw [place, whole, List.length_append]
  | turn before turn ih =>
    obtain ⟨entries, holds, asks⟩ := ih
    obtain ⟨entry, further⟩ := holds.turn turn
    refine ⟨entries ++ [entry], further, asksFor_concat.mpr ⟨asks, ?_⟩⟩
    rw [← holds.index]
    exact (turn_iff.mp turn).1

/-- Every state holds the constants so far. -/
theorem Reached.exists_holds (reached : Reached bytes count filling) :
    ∃ entries, filling.Holds bytes count entries := by
  obtain ⟨entries, holds, -⟩ := reached.exists_asksFor
  exact ⟨entries, holds⟩

/-- The loop reads all constants for which the count asks. -/
theorem exists_reached_of_asksFor {minor major : UInt16} {entries : List Entry}
    (asks : AsksFor count entries) (whole : bytes = bytesToPool minor major count entries ++ rest) :
    ∃ filling, Reached bytes count filling ∧
      filling.index = .ofNat (1 + totalWidth entries) ∧ filling.cursor.rest = rest ∧
      filling.slots.toList = .unusable :: entries.flatMap Entry.slots := by
  induction entries using List.reverseRecOn generalizing rest with
  | nil =>
    have opening : Reader.Takes opening 0 _ _ := takes_opening minor major count
    have opened := opening.run rest
    rw [← whole] at opened
    exact ⟨_, .start opened, rfl, rfl, rfl⟩
  | append_singleton entries entry ih =>
    obtain ⟨before, last⟩ := asksFor_concat.mp asks
    have parts : bytes = bytesToPool minor major count entries ++ (entry.bytes ++ rest) := by
      rw [whole]
      simp [bytesToPool]
    obtain ⟨filling, reached, place, ahead, kept⟩ := ih before parts
    have turn : Turn count filling (filling.past entry rest) :=
      turn_iff.mpr ⟨place ▸ last, entry, rest, ahead, rfl⟩
    refine ⟨_, reached.turn turn, ?_, rfl, ?_⟩
    · simp [Filling.past, place, ← Nat.add_assoc]
    · simp [Filling.past, kept]

end Turns

end DecompileServer.ClassFile

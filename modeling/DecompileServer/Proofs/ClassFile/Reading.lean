import DecompileServer.ClassFile.Reader
import Mathlib.Algebra.GroupWithZero.Nat
import Mathlib.Data.List.Basic
import Mathlib.Data.List.Forall2
import Mathlib.Data.List.Induction

/-!
# What a reader takes

A reader takes bytes from the front, and what it makes of them does not depend on those that follow.
`Takes` says which bytes those are: with fewer of them the reader runs out among them. Readers in
order take the bytes of each in order (`Takes.bind`). A reader that settles on all bytes either takes
some of them from the front or runs out (`Settles`), and readers in order settle when each does.
-/
namespace DecompileServer.ClassFile

section Numbers

/-- The bytes that write a number, the most significant first. -/
def written : Nat → Nat → List UInt8
  | 0, _ => []
  | width + 1, value => written width (value / 256) ++ [UInt8.ofNat value]

@[simp] theorem length_written (width value : Nat) : (written width value).length = width := by
  induction width generalizing value with
  | zero => rfl
  | succ width ih => simp [written, ih]

@[simp] theorem bigEndian_concat (bytes : List UInt8) (last : UInt8) :
    Reader.bigEndian (bytes ++ [last]) = Reader.bigEndian bytes * 256 + last.toNat := by
  simp [Reader.bigEndian]

/-- Bytes that write a number are read as it. -/
theorem bigEndian_written {width value : Nat} (fits : value < 256 ^ width) :
    Reader.bigEndian (written width value) = value := by
  induction width generalizing value with
  | zero =>
    obtain rfl : value = 0 := by omega
    rfl
  | succ width ih =>
    have front : value / 256 < 256 ^ width := by
      rw [Nat.div_lt_iff_lt_mul (by decide)]
      rwa [Nat.pow_succ] at fits
    rw [written, bigEndian_concat, ih front, UInt8.toNat_ofNat']
    omega

/-- Bytes are those that write the number that they are read as. -/
theorem written_bigEndian (bytes : List UInt8) :
    written bytes.length (Reader.bigEndian bytes) = bytes := by
  induction bytes using List.reverseRecOn with
  | nil => rfl
  | append_singleton bytes last ih =>
    have small := last.toNat_lt
    have front : (Reader.bigEndian bytes * 256 + last.toNat) / 256 = Reader.bigEndian bytes := by
      omega
    have back : UInt8.ofNat (Reader.bigEndian bytes * 256 + last.toNat) = last := by
      apply UInt8.toNat_inj.mp
      rw [UInt8.toNat_ofNat']
      omega
    rw [List.length_append, List.length_singleton, bigEndian_concat, written, front, back, ih]

/-- Bytes write a number below the power of their number. -/
theorem bigEndian_lt (bytes : List UInt8) : Reader.bigEndian bytes < 256 ^ bytes.length := by
  induction bytes using List.reverseRecOn with
  | nil => decide
  | append_singleton bytes last ih =>
    have small := last.toNat_lt
    rw [bigEndian_concat, List.length_append, List.length_singleton, Nat.pow_succ]
    omega

end Numbers

namespace Reader

variable {α β : Type} {reader first : Reader α} {next : α → Reader β} {offset : Nat}
  {bytes front back rest : List UInt8} {value : α} {fault : Fault} {outcome : Except Fault α}
  {later : Except Fault β}

/-- Readers in order read on where the one before has stopped. -/
theorem run_bind (cursor : Cursor) :
    (first >>= next).run cursor = first.run cursor >>= fun read => (next read.1).run read.2 :=
  rfl

/-- More bytes than there are cannot be taken. -/
theorem run_take_of_lt {count : Nat} (less : bytes.length < count) :
    (Reader.take count).run ⟨offset, bytes⟩ = .error (.truncated offset) := by
  change (if (bytes.take count).length = count then _ else _) = _
  rw [if_neg]
  rw [List.take_of_length_le (Nat.le_of_lt less)]
  exact Nat.ne_of_lt less

/-- A reader runs out among the given bytes, and tells a place among them. -/
def RunsOut (reader : Reader α) (offset : Nat) (bytes : List UInt8) : Prop :=
  ∃ place, reader.run ⟨offset, bytes⟩ = .error (.truncated place) ∧ offset ≤ place ∧
    place ≤ offset + bytes.length

/-- A reader takes the given bytes: what follows them is left, and without the last of them the
reader runs out. -/
structure Takes (reader : Reader α) (offset : Nat) (bytes : List UInt8)
    (outcome : Except Fault α) : Prop where
  /-- What follows makes no difference and is left. -/
  run : ∀ rest, reader.run ⟨offset, bytes ++ rest⟩ =
    outcome.map fun value => (value, ⟨offset + bytes.length, rest⟩)
  /-- Fewer bytes are too few. -/
  short : ∀ fewer, fewer <+: bytes → fewer ≠ bytes → RunsOut reader offset fewer

/-- What a reader makes of the given bytes: it takes some of them, or it runs out. Only some faults
are allowed where it takes them. -/
inductive Settles (allowed : Fault → Prop) (reader : Reader α) (offset : Nat)
    (bytes : List UInt8) : Prop where
  /-- The reader takes bytes from the front. -/
  | takes (front rest : List UInt8) (outcome : Except Fault α) (whole : bytes = front ++ rest)
      (final : ∀ fault, outcome = .error fault → allowed fault)
      (taken : Takes reader offset front outcome)
  /-- The reader runs out. -/
  | runsOut (out : RunsOut reader offset bytes)

/-- A reader settles on all bytes. -/
def IsSettled (allowed : Fault → Prop) (reader : Reader α) : Prop :=
  ∀ offset bytes, Settles allowed reader offset bytes

/-- Nothing is read after a reader that runs out. -/
theorem RunsOut.bind (out : RunsOut first offset bytes) : RunsOut (first >>= next) offset bytes := by
  obtain ⟨place, ran, above, below⟩ := out
  refine ⟨place, ?_, above, below⟩
  rw [run_bind, ran]
  rfl

namespace Takes

/-- The bytes of one reader, and those of the next. -/
theorem run_bind (head : Takes first offset front (.ok value)) (rest : List UInt8) :
    (first >>= next).run ⟨offset, front ++ rest⟩ =
      (next value).run ⟨offset + front.length, rest⟩ := by
  rw [Reader.run_bind, head.run rest]
  rfl

/-- The next reader runs out where it would by itself. -/
theorem bind_runsOut (head : Takes first offset front (.ok value))
    (out : RunsOut (next value) (offset + front.length) rest) :
    RunsOut (first >>= next) offset (front ++ rest) := by
  obtain ⟨place, ran, above, below⟩ := out
  refine ⟨place, by rw [head.run_bind, ran], by omega, ?_⟩
  rw [List.length_append]
  omega

/-- Readers in order take the bytes of each in order. -/
theorem bind (head : Takes first offset front (.ok value))
    (tail : Takes (next value) (offset + front.length) back later) :
    Takes (first >>= next) offset (front ++ back) later where
  run rest := by
    rw [List.append_assoc, head.run_bind, tail.run, List.length_append, Nat.add_assoc]
  short fewer inside strict := by
    -- The bytes end among those of the first reader, or among those of the next one.
    obtain shorter | ⟨more, rfl⟩ :=
      List.prefix_or_prefix_of_prefix inside (List.prefix_append front back)
    · by_cases all : fewer = front
      · rw [all] at strict ⊢
        rw [← List.append_nil front]
        exact head.bind_runsOut (tail.short [] (List.nil_prefix) (by simpa using strict))
      · exact (head.short fewer shorter all).bind
    · rw [List.prefix_append_right_inj] at inside
      exact head.bind_runsOut (tail.short more inside (by simpa using strict))

/-- Nothing is read after a reader that fails. -/
theorem bind_error (head : Takes first offset front (.error fault)) :
    Takes (first >>= next) offset front (.error fault) where
  run rest := by
    rw [Reader.run_bind, head.run rest]
    rfl
  short fewer inside strict := (head.short fewer inside strict).bind

/-- A reader that looks at no byte takes none. -/
theorem of_still (still : ∀ rest, reader.run ⟨offset, rest⟩ =
    outcome.map fun value => (value, ⟨offset, rest⟩)) : Takes reader offset [] outcome where
  run rest := still rest
  short _ inside strict := absurd (List.prefix_nil.mp inside) strict

/-- Giving a value takes nothing. -/
theorem pure (value : α) : Takes (Pure.pure value) offset [] (.ok value) :=
  of_still fun _ => rfl

/-- Failing takes nothing. -/
theorem throw (fault : Fault) :
    Takes (MonadExcept.throw fault : Reader α) offset [] (.error fault) :=
  of_still fun _ => rfl

/-- Taking what is given takes no byte. -/
theorem lift (given : Except Fault α) : Takes (liftM given) offset [] given :=
  of_still fun _ => by cases given <;> rfl

/-- A number of bytes is taken if there are so many. -/
theorem take (bytes : List UInt8) : Takes (Reader.take bytes.length) offset bytes (.ok bytes) where
  run rest := by
    change Reader.take bytes.length ⟨offset, bytes ++ rest⟩ = _
    simp [Reader.take, Except.map]
  short fewer inside strict := by
    have less : fewer.length < bytes.length :=
      Nat.lt_of_le_of_ne inside.length_le fun same => strict (inside.eq_of_length same)
    exact ⟨offset, run_take_of_lt less, Nat.le_refl _, Nat.le_add_right _ _⟩

/-- A value that is made of what a reader reads comes from the same bytes. -/
theorem bind_pure (head : Takes first offset front (.ok value)) (make : α → β) :
    Takes (first >>= fun value => Pure.pure (make value)) offset front (.ok (make value)) := by
  have made : Takes (Pure.pure (make value)) (offset + front.length) [] (.ok (make value)) :=
    Takes.pure _
  rw [← List.append_nil front]
  exact head.bind made

end Takes

/-- What is given takes no byte. -/
theorem lift_bind {given : Except Fault α} (found : given = .ok value) :
    (liftM given >>= next : Reader β) = next value := by
  rw [found]
  rfl

/-- Bytes are passed over if there are so many. -/
theorem takes_skip (bytes : List UInt8) : Takes (skip bytes.length) offset bytes (.ok ()) :=
  (Takes.take bytes).bind_pure fun _ => ()

/-- The byte of a number is read as it. -/
theorem takes_u1 (number : UInt8) : Takes u1 offset [number] (.ok number) := by
  have read : UInt8.ofNat (bigEndian [number]) = number := by simp [bigEndian]
  have taken : Takes u1 offset [number] (.ok (UInt8.ofNat (bigEndian [number]))) :=
    (Takes.take [number]).bind_pure fun bytes => UInt8.ofNat (bigEndian bytes)
  rwa [read] at taken

/-- The two bytes of a number are read as it. -/
theorem takes_u2 (number : UInt16) : Takes u2 offset (written 2 number.toNat) (.ok number) := by
  have read : UInt16.ofNat (bigEndian (written 2 number.toNat)) = number := by
    rw [bigEndian_written number.toNat_lt, UInt16.ofNat_toNat]
  have taken : Takes (Reader.take (written 2 number.toNat).length) offset
      (written 2 number.toNat) (.ok (written 2 number.toNat)) := Takes.take _
  rw [length_written] at taken
  have made := taken.bind_pure fun bytes => UInt16.ofNat (bigEndian bytes)
  rwa [read] at made

/-- The four bytes of a number are read as it. -/
theorem takes_u4 (number : UInt32) : Takes u4 offset (written 4 number.toNat) (.ok number) := by
  have read : UInt32.ofNat (bigEndian (written 4 number.toNat)) = number := by
    rw [bigEndian_written number.toNat_lt, UInt32.ofNat_toNat]
  have taken : Takes (Reader.take (written 4 number.toNat).length) offset
      (written 4 number.toNat) (.ok (written 4 number.toNat)) := Takes.take _
  rw [length_written] at taken
  have made := taken.bind_pure fun bytes => UInt32.ofNat (bigEndian bytes)
  rwa [read] at made

/-- The two bytes of a small number are read as it. -/
theorem takes_u2_ofNat {number : Nat} (small : number < 2 ^ 16) :
    Takes u2 offset (written 2 number) (.ok (.ofNat number)) := by
  have taken : Takes u2 offset (written 2 (UInt16.ofNat number).toNat) _ := takes_u2 _
  rwa [UInt16.toNat_ofNat_of_lt' small] at taken

/-- The four bytes of a small number are read as it. -/
theorem takes_u4_ofNat {number : Nat} (small : number < 2 ^ 32) :
    Takes u4 offset (written 4 number) (.ok (.ofNat number)) := by
  have taken : Takes u4 offset (written 4 (UInt32.ofNat number).toNat) _ := takes_u4 _
  rwa [UInt32.toNat_ofNat_of_lt' small] at taken

/-- Bytes are passed over if there are as many as the number says. -/
theorem takes_skip_of_eq {count : Nat} (sized : bytes.length = count) :
    Takes (skip count) offset bytes (.ok ()) :=
  sized ▸ takes_skip bytes

section Tables

variable {γ : Type} {write : γ → List UInt8} {items : List γ} {values : List α}

/-- A reader that takes each of some pieces takes them one after the other. -/
theorem takes_times (each : List.Forall₂
      (fun item value => ∀ offset, Takes reader offset (write item) (.ok value)) items values) :
    Takes (times reader items.length) offset (items.flatMap write) (.ok values) := by
  induction each generalizing offset with
  | nil => exact Takes.pure []
  | @cons item value items values one others ih =>
    have later : Takes (times reader items.length) (offset + (write item).length)
        (items.flatMap write) (.ok values) := ih
    exact (one offset).bind (later.bind_pure (value :: ·))

/-- A table is its number of items and the items. -/
theorem takes_table_bind {next : List α → Reader β} (few : items.length < 2 ^ 16)
    (each : List.Forall₂
      (fun item value => ∀ offset, Takes reader offset (write item) (.ok value)) items values)
    (tail : ∀ offset, Takes (next values) offset back later) :
    Takes (u2 >>= fun count => times reader count.toNat >>= next) offset
      (written 2 items.length ++ items.flatMap write ++ back) later := by
  rw [List.append_assoc]
  refine (takes_u2_ofNat few).bind ?_
  rw [UInt16.toNat_ofNat_of_lt' few]
  exact (takes_times each).bind (tail _)

end Tables

section Inversion

variable {count : Nat} {cursor after : Cursor} {result : β}

/-- What readers in order have read, the second one read from where the first one stopped. -/
theorem run_bind_eq_ok (ran : (first >>= next).run cursor = .ok (result, after)) :
    ∃ value between, first.run cursor = .ok (value, between) ∧
      (next value).run between = .ok (result, after) := by
  rw [run_bind] at ran
  cases start : first.run cursor with
  | error fault =>
    rw [start] at ran
    cases ran
  | ok read =>
    rw [start] at ran
    exact ⟨read.1, read.2, rfl, ran⟩

/-- What is read after a given value is read from the same place. -/
theorem lift_bind_eq_ok {given : Except Fault α}
    (ran : (liftM given >>= next : Reader β).run cursor = .ok (result, after)) :
    ∃ value, given = .ok value ∧ (next value).run cursor = .ok (result, after) := by
  cases given with
  | error fault => cases ran
  | ok value => exact ⟨value, rfl, ran⟩

/-- What was read a number of times stood at the front, piece by piece. -/
theorem times_eq_ok {γ : Type} {write : γ → List UInt8} {holds : γ → Prop} {values : List α}
    (each : ∀ cursor value after, reader.run cursor = .ok (value, after) →
      ∃ item, cursor.rest = write item ++ after.rest ∧ holds item)
    (ran : (times reader count).run cursor = .ok (values, after)) :
    ∃ items : List γ, items.length = count ∧ cursor.rest = items.flatMap write ++ after.rest ∧
      ∀ item ∈ items, holds item := by
  induction count generalizing cursor values with
  | zero =>
    cases ran
    exact ⟨[], rfl, rfl, nofun⟩
  | succ count ih =>
    obtain ⟨value, between, firstRead, further⟩ := run_bind_eq_ok ran
    obtain ⟨others, last, othersRead, made⟩ := run_bind_eq_ok further
    cases made
    obtain ⟨item, front, held⟩ := each _ _ _ firstRead
    obtain ⟨items, sized, behind, all⟩ := ih othersRead
    refine ⟨item :: items, by rw [List.length_cons, sized], ?_, ?_⟩
    · rw [front, behind, List.flatMap_cons, List.append_assoc]
    · intro other member
      obtain rfl | inside := List.mem_cons.mp member
      · exact held
      · exact all other inside

/-- Bytes that were taken stood at the front. -/
theorem take_eq_ok (ran : (Reader.take count).run ⟨offset, bytes⟩ = .ok (front, after)) :
    ∃ rest, bytes = front ++ rest ∧ front.length = count ∧ after = ⟨offset + count, rest⟩ := by
  change (if (bytes.take count).length = count then _ else _) = _ at ran
  by_cases enough : (bytes.take count).length = count
  · rw [if_pos enough] at ran
    cases ran
    exact ⟨bytes.drop count, (List.take_append_drop count bytes).symm, enough, rfl⟩
  · rw [if_neg enough] at ran
    cases ran

/-- Bytes that were passed over stood at the front. -/
theorem skip_eq_ok (ran : (skip count).run ⟨offset, bytes⟩ = .ok ((), after)) :
    ∃ front rest, bytes = front ++ rest ∧ front.length = count ∧
      after = ⟨offset + count, rest⟩ := by
  obtain ⟨front, between, taken, made⟩ := run_bind_eq_ok ran
  cases made
  exact ⟨front, take_eq_ok taken⟩

/-- A byte that was read stood at the front. -/
theorem u1_eq_ok {number : UInt8} (ran : u1.run ⟨offset, bytes⟩ = .ok (number, after)) :
    ∃ rest, bytes = number :: rest ∧ after = ⟨offset + 1, rest⟩ := by
  obtain ⟨front, between, taken, made⟩ := run_bind_eq_ok ran
  obtain ⟨rest, whole, single, rfl⟩ := take_eq_ok taken
  obtain ⟨byte, rfl⟩ := List.length_eq_one_iff.mp single
  cases made
  exact ⟨rest, by simp [whole, bigEndian], rfl⟩

/-- A number of two bytes that was read stood at the front. -/
theorem u2_eq_ok {number : UInt16} (ran : u2.run ⟨offset, bytes⟩ = .ok (number, after)) :
    ∃ rest, bytes = written 2 number.toNat ++ rest ∧ after = ⟨offset + 2, rest⟩ := by
  obtain ⟨front, between, taken, made⟩ := run_bind_eq_ok ran
  obtain ⟨rest, whole, two, rfl⟩ := take_eq_ok taken
  cases made
  have small := bigEndian_lt front
  rw [two] at small
  refine ⟨rest, ?_, rfl⟩
  rw [UInt16.toNat_ofNat_of_lt' small, ← two, written_bigEndian, whole]

/-- A number of four bytes that was read stood at the front. -/
theorem u4_eq_ok {number : UInt32} (ran : u4.run ⟨offset, bytes⟩ = .ok (number, after)) :
    ∃ rest, bytes = written 4 number.toNat ++ rest ∧ after = ⟨offset + 4, rest⟩ := by
  obtain ⟨front, between, taken, made⟩ := run_bind_eq_ok ran
  obtain ⟨rest, whole, four, rfl⟩ := take_eq_ok taken
  cases made
  have small := bigEndian_lt front
  rw [four] at small
  refine ⟨rest, ?_, rfl⟩
  rw [UInt32.toNat_ofNat_of_lt' small, ← four, written_bigEndian, whole]

/-- Two bytes that were passed over are a number of two bytes. -/
theorem skip_two_eq_ok (ran : (skip 2).run ⟨offset, bytes⟩ = .ok ((), after)) :
    ∃ (number : UInt16) (rest : List UInt8), bytes = written 2 number.toNat ++ rest ∧
      after = ⟨offset + 2, rest⟩ := by
  obtain ⟨front, rest, whole, two, rfl⟩ := skip_eq_ok ran
  have small := bigEndian_lt front
  rw [two] at small
  refine ⟨.ofNat (bigEndian front), rest, ?_, rfl⟩
  rw [UInt16.toNat_ofNat_of_lt' small, ← two, written_bigEndian, whole]

end Inversion

section Settling

variable {allowed other : Fault → Prop}

/-- More faults may be allowed. -/
theorem Settles.mono (settles : Settles allowed reader offset bytes)
    (more : ∀ fault, allowed fault → other fault) : Settles other reader offset bytes := by
  cases settles with
  | takes front rest outcome whole final taken =>
    exact .takes front rest outcome whole (fun fault same => more fault (final fault same)) taken
  | runsOut out => exact .runsOut out

/-- Readers in order settle when the first does, and the next one on what is left. -/
theorem Settles.bind (head : Settles allowed first offset bytes)
    (tail : ∀ front rest value, bytes = front ++ rest → Takes first offset front (.ok value) →
      Settles allowed (next value) (offset + front.length) rest) :
    Settles allowed (first >>= next) offset bytes := by
  cases head with
  | runsOut out => exact .runsOut out.bind
  | takes front rest outcome whole final taken =>
    cases outcome with
    | error fault =>
      refine .takes front rest (.error fault) whole ?_ taken.bind_error
      rintro _ ⟨⟩
      exact final fault rfl
    | ok value =>
      cases tail front rest value whole taken with
      | runsOut out =>
        rw [whole]
        exact .runsOut (taken.bind_runsOut out)
      | takes back further later same last read =>
        refine .takes (front ++ back) further later ?_ last (taken.bind read)
        rw [whole, same, List.append_assoc]

/-- A reader that takes the same whatever comes settles. -/
theorem Settles.of_takes (final : ∀ fault, outcome = .error fault → allowed fault)
    (taken : Takes reader offset [] outcome) : Settles allowed reader offset bytes :=
  .takes [] bytes outcome rfl final taken

namespace IsSettled

/-- Readers in order settle when each does. -/
theorem bind (head : IsSettled allowed first) (tail : ∀ value, IsSettled allowed (next value)) :
    IsSettled allowed (first >>= next) :=
  fun offset bytes => (head offset bytes).bind fun _ rest value _ _ => tail value _ rest

/-- Giving a value settles. -/
theorem pure (value : α) : IsSettled allowed (Pure.pure value) :=
  fun _ _ => .of_takes (by simp) (Takes.pure value)

/-- Failing settles if the fault is allowed. -/
theorem throw (final : allowed fault) :
    IsSettled allowed (MonadExcept.throw fault : Reader α) :=
  fun _ _ => .of_takes (by simpa using final) (Takes.throw fault)

/-- Taking what is given settles if its fault is allowed. -/
theorem lift {given : Except Fault α} (final : ∀ fault, given = .error fault → allowed fault) :
    IsSettled allowed (liftM given : Reader α) :=
  fun _ _ => .of_takes final (Takes.lift given)

/-- Taking a number of bytes settles. -/
theorem take (count : Nat) : IsSettled allowed (Reader.take count) := by
  intro offset bytes
  by_cases enough : count ≤ bytes.length
  · have taken : Takes (Reader.take (bytes.take count).length) offset (bytes.take count)
        (.ok (bytes.take count)) := Takes.take _
    rw [List.length_take_of_le enough] at taken
    exact .takes (bytes.take count) (bytes.drop count) _ (List.take_append_drop _ _).symm (by simp)
      taken
  · have less := Nat.lt_of_not_le enough
    exact .runsOut ⟨offset, run_take_of_lt less, Nat.le_refl _, Nat.le_add_right _ _⟩

theorem skip (count : Nat) : IsSettled allowed (Reader.skip count) :=
  (take count).bind fun _ => pure ()

theorem u1 : IsSettled allowed Reader.u1 :=
  (take 1).bind fun _ => pure _

theorem u2 : IsSettled allowed Reader.u2 :=
  (take 2).bind fun _ => pure _

theorem u4 : IsSettled allowed Reader.u4 :=
  (take 4).bind fun _ => pure _

/-- Reading a number of times settles. -/
theorem times (each : IsSettled allowed reader) (count : Nat) :
    IsSettled allowed (Reader.times reader count) := by
  induction count with
  | zero => exact pure []
  | succ count ih => exact each.bind fun _ => ih.bind fun _ => pure _

end IsSettled

end Settling

end Reader

end DecompileServer.ClassFile

import DecompileServer.Proofs.ClassFile.Filling

/-!
# Which bytes decide

What is read of a class file depends only on the bytes that had to be read. Either they are at the
front of the given ones, and what follows them makes no difference, or the given ones end among
them. The first four bytes decide whether the file is a class file at all.
-/
namespace DecompileServer.ClassFile

/-- Faults in what was read. -/
def Fault.IsRefusal : Fault → Prop
  | .unknownTag .. | .badIndex .. => True
  | .badMagic | .truncated _ => False

/-- Faults that more bytes do not mend. -/
def Fault.IsFinal : Fault → Prop
  | .truncated _ => False
  | _ => True

theorem Fault.IsRefusal.isFinal {fault : Fault} (refusal : fault.IsRefusal) : fault.IsFinal := by
  cases fault <;> trivial

section Pool

variable {pool : Pool} {index : UInt16} {fault : Fault}

theorem Pool.isRefusal_of_text (failed : pool.text index = .error fault) : fault.IsRefusal := by
  unfold text at failed
  split at failed <;> cases failed
  trivial

theorem Pool.isRefusal_of_className (failed : pool.className index = .error fault) :
    fault.IsRefusal := by
  unfold className at failed
  split at failed
  · exact isRefusal_of_text failed
  · cases failed
    trivial

theorem Pool.isRefusal_of_parentName (failed : pool.parentName index = .error fault) :
    fault.IsRefusal := by
  unfold parentName at failed
  split at failed
  · cases failed
  · cases named : pool.className index with
    | error other =>
      rw [named] at failed
      cases failed
      exact isRefusal_of_className named
    | ok name =>
      rw [named] at failed
      cases failed

/-- A fault in a list of names is a fault in one of them. -/
theorem Pool.isRefusal_of_mapM_text {indices : List UInt16}
    (failed : indices.mapM pool.text = .error fault) : fault.IsRefusal := by
  induction indices with
  | nil => cases failed
  | cons index indices ih =>
    rw [List.mapM_cons] at failed
    cases found : pool.text index with
    | error other =>
      rw [found] at failed
      cases failed
      exact isRefusal_of_text found
    | ok name =>
      rw [found] at failed
      cases others : indices.mapM pool.text with
      | error other =>
        rw [others] at failed
        cases failed
        exact ih others
      | ok names =>
        rw [others] at failed
        cases failed

end Pool

section Readers

open Reader (IsSettled Settles Takes RunsOut)

variable {count index : UInt16} {slots : Array Constant} {pool : Pool}

theorem isSettled_readConstant : IsSettled Fault.IsRefusal (readConstant index) := by
  rw [readConstant_eq]
  refine IsSettled.u1.bind fun tag => ?_
  cases tagCase index tag with
  | text => exact IsSettled.u2.bind fun _ => (IsSettled.take _).bind fun _ => IsSettled.pure _
  | classNamed => exact IsSettled.u2.bind fun _ => IsSettled.pure _
  | plain kind =>
    rw [readContent_tag]
    exact (IsSettled.skip _).bind fun _ => IsSettled.pure _
  | unknown tag refused =>
    rw [refused]
    exact IsSettled.throw trivial

/-- The loop settles: each turn does, and leaves fewer bytes. -/
theorem isSettled_fill : IsSettled Fault.IsRefusal (fill count index slots) := by
  intro offset bytes
  induction size : bytes.length using Nat.strongRecOn
      generalizing index slots offset bytes with
  | ind size ih =>
    by_cases more : index < count
    · rw [fill_more more]
      refine (isSettled_readConstant offset bytes).bind fun front rest constants whole taken => ?_
      have ran := taken.run rest
      rw [← whole] at ran
      have less : rest.length < bytes.length := length_rest_lt_of_run_eq_ok ran
      exact ih _ (size ▸ less) _ _ rfl
    · rw [fill_done more]
      exact IsSettled.pure _ _ _

theorem isSettled_skipAttributes : IsSettled Fault.IsRefusal skipAttributes :=
  IsSettled.u2.bind fun _ => (IsSettled.times ((IsSettled.skip 2).bind fun _ =>
    IsSettled.u4.bind fun _ => IsSettled.skip _) _).bind fun _ => IsSettled.pure _

theorem isSettled_skipField : IsSettled Fault.IsRefusal skipField :=
  (IsSettled.skip 6).bind fun _ => isSettled_skipAttributes

theorem isSettled_checkInterface : IsSettled Fault.IsRefusal (checkInterface pool) :=
  IsSettled.u2.bind fun _ => (IsSettled.lift fun _ => Pool.isRefusal_of_className).bind fun _ =>
    IsSettled.pure _

theorem isSettled_readMethod : IsSettled Fault.IsRefusal (readMethod pool) :=
  (IsSettled.skip 2).bind fun _ => IsSettled.u2.bind fun _ => (IsSettled.skip 2).bind fun _ =>
    (IsSettled.lift fun _ => Pool.isRefusal_of_text).bind fun _ =>
      isSettled_skipAttributes.bind fun _ => IsSettled.pure _

theorem isSettled_readTables {declared : String} {parent : Option String} :
    IsSettled Fault.IsRefusal (readTables pool declared parent) :=
  IsSettled.u2.bind fun _ => (isSettled_checkInterface.times _).bind fun _ =>
    IsSettled.u2.bind fun _ => (isSettled_skipField.times _).bind fun _ =>
      IsSettled.u2.bind fun _ => (isSettled_readMethod.times _).bind fun _ =>
        (IsSettled.lift fun _ => Pool.isRefusal_of_mapM_text).bind fun _ => IsSettled.pure _

theorem isSettled_readRest : IsSettled Fault.IsRefusal (readRest pool) :=
  (IsSettled.skip 2).bind fun _ => IsSettled.u2.bind fun _ => IsSettled.u2.bind fun _ =>
    (IsSettled.lift fun _ => Pool.isRefusal_of_className).bind fun _ =>
      (IsSettled.lift fun _ => Pool.isRefusal_of_parentName).bind fun _ => isSettled_readTables

theorem isSettled_readAfterMagic : IsSettled Fault.IsRefusal readAfterMagic :=
  (IsSettled.skip 2).bind fun _ => (IsSettled.skip 2).bind fun _ =>
    (IsSettled.u2.bind fun _ => isSettled_fill).bind fun _ => isSettled_readRest

theorem isSettled_read : IsSettled Fault.IsFinal read := by
  rw [read_eq_magic]
  refine IsSettled.u4.bind fun number offset bytes => ?_
  split
  · exact (isSettled_readAfterMagic offset bytes).mono fun _ => Fault.IsRefusal.isFinal
  · exact IsSettled.throw trivial offset bytes

end Readers

section Whole

open Reader (Takes RunsOut)

variable {bytes front rest : List UInt8} {outcome : Except Fault Summary}

/-- What is read of the bytes that had to be read is what is read of the whole file. -/
theorem parse_of_takes (taken : Takes read 0 front outcome) (rest : List UInt8) :
    parse (front ++ rest) = outcome := by
  rw [parse, taken.run]
  cases outcome <;> rfl

/-- Where the reader runs out, the file is told to be truncated there. -/
theorem parse_of_runsOut (out : RunsOut read 0 bytes) :
    ∃ place ≤ bytes.length, parse bytes = .error (.truncated place) := by
  obtain ⟨place, ran, -, below⟩ := out
  exact ⟨place, by omega, by rw [parse, ran]; rfl⟩

/-- The bytes of the magic number are the only ones that are read as it. -/
theorem number_eq_magic_iff (four : front.length = 4) :
    UInt32.ofNat (Reader.bigEndian front) = magic ↔ front = [0xCA, 0xFE, 0xBA, 0xBE] := by
  have small := bigEndian_lt front
  rw [four] at small
  constructor
  · intro genuine
    have same : Reader.bigEndian front = magic.toNat := by
      rw [← genuine, UInt32.toNat_ofNat_of_lt' small]
    rw [← written_bigEndian front, four, same]
    decide
  · rintro rfl
    decide

/-- With fewer than four bytes there is no magic number. -/
theorem parse_of_length_lt (few : bytes.length < 4) : parse bytes = .error (.truncated 0) := by
  rw [parse, read_eq_magic, Reader.u4, bind_assoc, Reader.run_bind, Reader.run_take_of_lt few]
  rfl

/-- The first four bytes are the magic number, or nothing else is read. -/
theorem parse_of_length_eq (four : front.length = 4) (rest : List UInt8) :
    parse (front ++ rest) =
      if front = [0xCA, 0xFE, 0xBA, 0xBE] then (readAfterMagic.run ⟨4, rest⟩).map (·.1)
      else .error .badMagic := by
  have taken : Takes (Reader.take front.length) 0 front (.ok front) := Takes.take front
  rw [four] at taken
  have number : Takes Reader.u4 0 front (.ok (.ofNat (Reader.bigEndian front))) :=
    taken.bind_pure fun bytes => UInt32.ofNat (Reader.bigEndian bytes)
  rw [parse, read_eq_magic, number.run_bind, four]
  by_cases genuine : front = [0xCA, 0xFE, 0xBA, 0xBE]
  · rw [if_pos genuine, if_pos ((number_eq_magic_iff four).mpr genuine)]
  · rw [if_neg genuine, if_neg fun same => genuine ((number_eq_magic_iff four).mp same)]
    rfl

/-- After the magic number the reader finds no fault in it. -/
theorem run_readAfterMagic_ne (rest : List UInt8) :
    (readAfterMagic.run ⟨4, rest⟩).map (·.1) ≠ .error .badMagic ∧
      (readAfterMagic.run ⟨4, rest⟩).map (·.1) ≠ .error (.truncated 0) := by
  cases isSettled_readAfterMagic 4 rest with
  | takes front further outcome whole final taken =>
    rw [whole, taken.run]
    cases outcome with
    | ok summary => exact ⟨nofun, nofun⟩
    | error fault =>
      have refusal := final fault rfl
      constructor
      · rintro ⟨⟩
        exact refusal
      · rintro ⟨⟩
        exact refusal
  | runsOut out =>
    obtain ⟨place, ran, above, -⟩ := out
    rw [ran]
    refine ⟨nofun, ?_⟩
    rintro ⟨⟩
    exact absurd above (by decide)

/-- Bytes begin as a class file does, unless the reader says otherwise of the first four. -/
theorem hasMagic_eq_false_iff (bytes : List UInt8) :
    hasMagic bytes = false ↔
      parse bytes = .error .badMagic ∨ parse bytes = .error (.truncated 0) := by
  by_cases enough : 4 ≤ bytes.length
  · obtain ⟨front, rest, four, rfl⟩ : ∃ front rest, front.length = 4 ∧ bytes = front ++ rest :=
      ⟨bytes.take 4, bytes.drop 4, List.length_take_of_le enough, (List.take_append_drop 4 _).symm⟩
    have begins : hasMagic (front ++ rest) = (front == [0xCA, 0xFE, 0xBA, 0xBE]) := by
      rw [hasMagic, ← four, List.take_left]
    rw [begins, beq_eq_false_iff_ne, parse_of_length_eq four]
    by_cases genuine : front = [0xCA, 0xFE, 0xBA, 0xBE]
    · obtain ⟨notForeign, notShort⟩ := run_readAfterMagic_ne rest
      rw [if_pos genuine]
      exact ⟨fun foreign => absurd genuine foreign,
        fun failed => (failed.elim notForeign notShort).elim⟩
    · rw [if_neg genuine]
      exact ⟨fun _ => .inl rfl, fun _ => genuine⟩
  · have few := Nat.lt_of_not_le enough
    have begins : hasMagic bytes = false := by
      rw [hasMagic, beq_eq_false_iff_ne, List.take_of_length_le (Nat.le_of_lt few)]
      rintro rfl
      exact absurd few (by decide)
    rw [begins, parse_of_length_lt few]
    exact ⟨fun _ => .inr rfl, fun _ => rfl⟩

/-- A file that is not truncated is read as before when bytes are put behind it. -/
theorem parse_append (final : ∀ place, parse bytes ≠ .error (.truncated place))
    (suffix : List UInt8) : parse (bytes ++ suffix) = parse bytes := by
  cases isSettled_read 0 bytes with
  | takes front rest outcome whole _ taken =>
    rw [whole, List.append_assoc, parse_of_takes taken, parse_of_takes taken]
  | runsOut out =>
    obtain ⟨place, -, truncated⟩ := parse_of_runsOut out
    exact absurd truncated (final place)

/-- A file that can be read can be read from some of its bytes, and from no fewer. -/
theorem exists_least_of_parse_eq_ok {summary : Summary} (parsed : parse bytes = .ok summary) :
    ∃ least ≤ bytes.length, parse (bytes.take least) = .ok summary ∧
      ∀ fewer < least, ∃ place ≤ fewer,
        parse (bytes.take fewer) = .error (.truncated place) := by
  cases isSettled_read 0 bytes with
  | takes front rest outcome whole _ taken =>
    rw [whole, parse_of_takes taken] at parsed
    subst whole parsed
    have needed := parse_of_takes taken []
    rw [List.append_nil] at needed
    refine ⟨front.length, by simp, by rw [List.take_left, needed], fun fewer less => ?_⟩
    have cut : (front ++ rest).take fewer = front.take fewer :=
      List.take_append_of_le_length (Nat.le_of_lt less)
    have length : (front.take fewer).length = fewer := List.length_take_of_le (Nat.le_of_lt less)
    have strict : front.take fewer ≠ front := fun same => by
      rw [same] at length
      omega
    have told := parse_of_runsOut (taken.short _ (List.take_prefix fewer front) strict)
    rwa [length, ← cut] at told
  | runsOut out =>
    obtain ⟨place, -, truncated⟩ := parse_of_runsOut out
    rw [parsed] at truncated
    cases truncated

/-- What the reader says depends only on the bytes that it had to read. Bytes put behind a file
change nothing unless it is truncated; a file that can be read has a shortest front that can be, and
what is shorter is truncated at a place inside it; and the bytes begin as a class file does unless
the reader says that they do not, or that they end before the magic number does. -/
theorem reads_what_it_needs (bytes : List UInt8) :
    (∀ suffix, (∀ place, parse bytes ≠ .error (.truncated place)) →
      parse (bytes ++ suffix) = parse bytes) ∧
    (∀ summary, parse bytes = .ok summary →
      ∃ least ≤ bytes.length, parse (bytes.take least) = .ok summary ∧
        ∀ fewer < least, ∃ place ≤ fewer,
          parse (bytes.take fewer) = .error (.truncated place)) ∧
    (hasMagic bytes = false ↔
      parse bytes = .error .badMagic ∨ parse bytes = .error (.truncated 0)) :=
  ⟨fun suffix final => parse_append final suffix, fun _ => exists_least_of_parse_eq_ok,
    hasMagic_eq_false_iff bytes⟩

end Whole

end DecompileServer.ClassFile

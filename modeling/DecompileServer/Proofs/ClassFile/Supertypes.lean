import DecompileServer.Proofs.ClassFile.Counter
import DecompileServer.Proofs.ClassFile.Faithful
import DecompileServer.Proofs.Effect

/-!
# Supertypes are among the references

The tables of a class file give its parent and its interfaces by indices, which are only checked;
the references are collected from the constants afterwards. They are the names of all constants that
name a class, in the order in which these first occur (`AreFirst`), so every supertype is among them
unless it is the class itself or an array. This holds of the constants that the count of the file
asks for (`HoldsConstants`), whatever they are, and a file in which one of them names a class by
something else than a text is refused.
-/
namespace DecompileServer.ClassFile

section FirstOccurrences

variable {wanted : String → Prop} {names kept : List String} {name : String}

/-- Whether a list has those names of another one that are wanted, each once and in the order of
their first occurrence. -/
structure AreFirst (wanted : String → Prop) (names kept : List String) : Prop where
  /-- The wanted names are kept and no others. -/
  mem_iff : ∀ name, name ∈ kept ↔ name ∈ names ∧ wanted name
  /-- Each is kept once. -/
  nodup : kept.Nodup
  /-- The first occurrence of each is before that of those after it. -/
  ordered : kept.Pairwise fun earlier later => names.idxOf earlier < names.idxOf later

/-- One more name changes nothing if it is known or not wanted. -/
theorem AreFirst.concat_of_kept (first : AreFirst wanted names kept)
    (known : wanted name → name ∈ kept) : AreFirst wanted (names ++ [name]) kept := by
  have before {other : String} (member : other ∈ kept) :
      (names ++ [name]).idxOf other = names.idxOf other :=
    List.idxOf_append_of_mem ((first.mem_iff other).mp member).1
  refine ⟨fun other => ?_, first.nodup, first.ordered.imp_of_mem fun one other less => ?_⟩
  · rw [List.mem_append, List.mem_singleton]
    constructor
    · intro member
      obtain ⟨inside, asked⟩ := (first.mem_iff other).mp member
      exact ⟨.inl inside, asked⟩
    · rintro ⟨inside | rfl, asked⟩
      · exact (first.mem_iff other).mpr ⟨inside, asked⟩
      · exact known asked
  · rwa [before one, before other]

/-- One more name is kept if it is wanted and new. -/
theorem AreFirst.concat_of_new (first : AreFirst wanted names kept) (new : name ∉ kept)
    (asked : wanted name) : AreFirst wanted (names ++ [name]) (kept ++ [name]) := by
  have absent : name ∉ names := fun member => new ((first.mem_iff name).mpr ⟨member, asked⟩)
  have place : (names ++ [name]).idxOf name = names.length := by
    rw [List.idxOf_append_of_notMem absent, List.idxOf_cons_self, Nat.add_zero]
  have before {other : String} (member : other ∈ kept) :
      (names ++ [name]).idxOf other = names.idxOf other :=
    List.idxOf_append_of_mem ((first.mem_iff other).mp member).1
  refine ⟨fun other => ?_, ?_, ?_⟩
  · rw [List.mem_append, List.mem_append, List.mem_singleton, first.mem_iff]
    constructor
    · rintro (⟨inside, wants⟩ | rfl)
      · exact ⟨.inl inside, wants⟩
      · exact ⟨.inr rfl, asked⟩
    · rintro ⟨inside | rfl, wants⟩
      · exact .inl ⟨inside, wants⟩
      · exact .inr rfl
  · rw [List.nodup_append]
    refine ⟨first.nodup, List.pairwise_singleton _ _, fun other member last single same => new ?_⟩
    rwa [same, List.mem_singleton.mp single] at member
  · rw [List.pairwise_append]
    refine ⟨first.ordered.imp_of_mem fun one other less => ?_, List.pairwise_singleton _ _,
      fun other member last same => ?_⟩
    · rwa [before one, before other]
    · rw [List.mem_singleton.mp same, place, before member, List.idxOf_lt_length_iff]
      exact ((first.mem_iff other).mp member).1

/-- The references of a class are the names of others that are no arrays, as they first occur. -/
theorem areFirst_referencesOf (declared : String) (names : List String) :
    AreFirst (fun name => name ≠ declared ∧ name.toList.head? ≠ some '[') names
      (referencesOf declared names) := by
  induction names using List.reverseRecOn with
  | nil => exact ⟨by simp [referencesOf, firstOccurrences], List.nodup_nil, List.Pairwise.nil⟩
  | append_singleton names name ih =>
    by_cases asked : name ≠ declared ∧ name.toList.head? ≠ some '['
    · have step : referencesOf declared (names ++ [name]) =
          if (referencesOf declared names).contains name then referencesOf declared names
          else referencesOf declared names ++ [name] := by
        simp [referencesOf, firstOccurrences, asked]
      rw [step]
      split
      · next known => exact ih.concat_of_kept fun _ => List.contains_iff_mem.mp known
      · next new =>
        have fresh : name ∉ referencesOf declared names :=
          fun member => new (List.contains_iff_mem.mpr member)
        exact ih.concat_of_new fresh asked
    · have step : referencesOf declared (names ++ [name]) = referencesOf declared names := by
        rw [referencesOf, List.filter_append, List.filter_singleton, decide_eq_false asked,
          cond_false, List.append_nil, referencesOf]
      rw [step]
      exact ih.concat_of_kept fun wants => absurd wants asked

end FirstOccurrences

/-- Whether the bytes of a class file hold constants, before the rest: its count asks for these and
for no more. -/
def HoldsConstants (bytes : List UInt8) (entries : List Entry) (rest : List UInt8) : Prop :=
  ∃ minor major count, bytes = bytesToPool minor major count entries ++ rest ∧
    AsksFor count entries ∧ ¬ UInt16.ofNat (1 + totalWidth entries) < count

section LookUp

variable {entries : List Entry} {slots : Array Constant} {index : Nat} {constant : Constant}

/-- What is kept for a number of a constant is kept under its own number, or names nothing. -/
theorem Entry.eq_of_getElem?_slots {entry : Entry} (found : entry.slots[index]? = some constant) :
    index = 0 ∧ constant = entry.kept ∨ constant = .unusable := by
  have plain {place : Nat} {first : Constant} (found : [first][place]? = some constant) :
      place = 0 ∧ constant = first := by
    obtain ⟨inside, same⟩ := List.getElem?_eq_some_iff.mp found
    obtain rfl : place = 0 := by simpa using inside
    exact ⟨rfl, same.symm⟩
  have wide (found : [Constant.other, Constant.unusable][index]? = some constant) :
      index = 0 ∧ constant = .other ∨ constant = .unusable := by
    cases index with
    | zero => exact .inl ⟨rfl, (Option.some.inj found).symm⟩
    | succ index =>
      rw [List.getElem?_cons_succ] at found
      exact .inr (plain found).2
  cases entry with
  | plain kind content sized =>
    cases kind with
    | long => exact wide found
    | double => exact wide found
    | _ => exact .inl (plain found)
  | _ => exact .inl (plain found)

/-- What is kept under a number is a constant that has it, or names nothing. -/
theorem exists_numbered
    (found : (.unusable :: entries.flatMap Entry.slots)[index]? = some constant) :
    constant = .unusable ∨ ∃ entry, Numbered entries index entry ∧ constant = entry.kept := by
  cases index with
  | zero => exact .inl (Option.some.inj found).symm
  | succ index =>
    rw [List.getElem?_cons_succ] at found
    suffices constant = .unusable ∨ ∃ front entry back, entries = front ++ entry :: back ∧
        index = totalWidth front ∧ constant = entry.kept by
      refine this.imp_right ?_
      rintro ⟨front, entry, back, whole, rfl, same⟩
      exact ⟨entry, ⟨front, back, whole, Nat.add_comm _ _⟩, same⟩
    induction entries generalizing index with
    | nil => simp at found
    | cons entry entries ih =>
      rw [List.flatMap_cons] at found
      by_cases inside : index < entry.slots.length
      · rw [List.getElem?_append_left inside] at found
        refine (Entry.eq_of_getElem?_slots found).symm.imp_right ?_
        rintro ⟨rfl, same⟩
        exact ⟨[], entry, entries, rfl, rfl, same⟩
      · rw [List.getElem?_append_right (Nat.le_of_not_lt inside)] at found
        refine (ih _ found).imp_right ?_
        rintro ⟨front, other, back, rfl, place, same⟩
        refine ⟨entry :: front, other, back, rfl, ?_, same⟩
        rw [totalWidth_cons, ← place, ← Entry.length_slots]
        omega

variable {number : UInt16} {name : String}
  (kept : slots.toList = .unusable :: entries.flatMap Entry.slots)
include kept

/-- A text is found in the pool exactly if there is one under its number. -/
theorem text_eq_ok_iff : Pool.text ⟨slots⟩ number = .ok name ↔ NamesText entries number name := by
  refine ⟨fun found => ?_, fun names => names.text_eq kept⟩
  unfold Pool.text at found
  rw [← Array.getElem?_toList, kept] at found
  split at found
  · next value stored =>
    cases found
    obtain none | ⟨entry, numbered, same⟩ := exists_numbered stored
    · cases none
    · cases entry with
      | text content short =>
        cases same
        exact ⟨content, short, numbered, rfl⟩
      | classNamed nameIndex => cases same
      | plain kind content sized => cases same
  · cases found

/-- A class is found in the pool exactly if there is one under its number. -/
theorem className_eq_ok_iff :
    Pool.className ⟨slots⟩ number = .ok name ↔ NamesClass entries number name := by
  refine ⟨fun found => ?_, fun names => names.className_eq kept⟩
  unfold Pool.className at found
  rw [← Array.getElem?_toList, kept] at found
  split at found
  · next nameIndex stored =>
    obtain none | ⟨entry, numbered, same⟩ := exists_numbered stored
    · cases none
    · cases entry with
      | text content short => cases same
      | classNamed index =>
        cases same
        exact ⟨nameIndex, numbered, (text_eq_ok_iff kept).mp found⟩
      | plain kind content sized => cases same
  · cases found

/-- The texts at some indices are found exactly if there is one under each. -/
theorem mapM_text_eq_ok_iff {indices : List UInt16} {names : List String} :
    indices.mapM (Pool.text ⟨slots⟩) = .ok names ↔
      List.Forall₂ (NamesText entries) indices names := by
  refine ⟨fun found => ?_, fun named => mapM_text_eq named kept⟩
  induction indices generalizing names with
  | nil =>
    cases found
    exact .nil
  | cons number indices ih =>
    rw [List.mapM_cons] at found
    obtain ⟨name, first, further⟩ := Effect.except_bind_eq_ok.mp found
    obtain ⟨others, rest, made⟩ := Effect.except_bind_eq_ok.mp further
    cases made
    exact .cons ((text_eq_ok_iff kept).mp first) (ih rest)

/-- The classes of the pool have names exactly if the constants give them texts. -/
theorem classNames_eq_ok_iff {names : List String} : Pool.classNames ⟨slots⟩ = .ok names ↔
    List.Forall₂ (NamesText entries) (entries.filterMap Entry.nameIndex?) names := by
  rw [← mapM_text_eq_ok_iff kept, ← filterMap_slots, ← kept]
  rfl

end LookUp

section Tables

open Reader (run_bind_eq_ok lift_bind_eq_ok)

variable {bytes rest : List UInt8} {entries : List Entry} {slots : Array Constant}
  {summary : Summary} {declared : String} {parent : Option String} {cursor after : Cursor}

/-- What stands after the constants of a class file: the indices of the class, of its parent and of
its interfaces. -/
def HoldsIndices (rest : List UInt8) (declaredIndex parentIndex : UInt16)
    (interfaces : List UInt16) : Prop :=
  ∃ (access : UInt16) (further : List UInt8), interfaces.length < 2 ^ 16 ∧
    rest = written 2 access.toNat ++ (written 2 declaredIndex.toNat ++
      (written 2 parentIndex.toNat ++
        (tableBytes (fun index => written 2 index.toNat) interfaces ++ further)))

/-- Whether a name is offered to those who look for what a class needs: it is a reference unless it
is that of the class itself or of an array. -/
def Summary.Offers (summary : Summary) (name : String) : Prop :=
  name ∈ summary.references ∨ name = summary.declared ∨ name.toList.head? = some '['

/-- What a summary says of the classes that a file with some constants and indices names. -/
structure Summary.Covers (summary : Summary) (entries : List Entry)
    (declaredIndex parentIndex : UInt16) (interfaces : List UInt16) : Prop where
  /-- The class is named. -/
  declared : NamesClass entries declaredIndex summary.declared
  /-- There is a parent unless its index is zero. -/
  parent_eq_none : summary.parent = none ↔ parentIndex = 0
  /-- The parent is named, and offered. -/
  parent : ∀ name, summary.parent = some name →
    NamesClass entries parentIndex name ∧ summary.Offers name
  /-- So is every interface. -/
  interfaces : ∀ index ∈ interfaces, ∃ name, NamesClass entries index name ∧ summary.Offers name
  /-- The references are the names of the classes among the constants, but for the class itself and
  for arrays, each once and in the order of their first occurrence. -/
  references : ∃ names,
    List.Forall₂ (NamesText entries) (entries.filterMap Entry.nameIndex?) names ∧
    AreFirst (fun name => name ≠ summary.declared ∧ name.toList.head? ≠ some '[') names
      summary.references

/-- A class that a number names is one of those among the constants. -/
theorem NamesClass.mem_of_forall₂ {number : UInt16} {name : String} {names : List String}
    (named : NamesClass entries number name)
    (found : List.Forall₂ (NamesText entries) (entries.filterMap Entry.nameIndex?) names)
    (kept : slots.toList = .unusable :: entries.flatMap Entry.slots) : name ∈ names := by
  obtain ⟨nameIndex, ⟨front, back, whole, -⟩, text⟩ := named
  have member : nameIndex ∈ entries.filterMap Entry.nameIndex? :=
    List.mem_filterMap.mpr ⟨.classNamed nameIndex, by simp [whole], rfl⟩
  obtain ⟨other, inside, another⟩ := exists_of_mem_left found member
  have same := (another.text_eq kept).symm.trans (text.text_eq kept)
  exact Except.ok.inj same ▸ inside

/-- An interface that is checked is a class at its index. -/
theorem checkInterface_eq_ok (kept : slots.toList = .unusable :: entries.flatMap Entry.slots)
    {value : Unit} (ran : (checkInterface ⟨slots⟩).run cursor = .ok (value, after)) :
    ∃ index : UInt16, cursor.rest = written 2 index.toNat ++ after.rest ∧
      ∃ name, NamesClass entries index name := by
  obtain ⟨offset, bytes⟩ := cursor
  obtain ⟨index, between, read, ran⟩ := run_bind_eq_ok ran
  obtain ⟨rest, rfl, rfl⟩ := Reader.u2_eq_ok read
  obtain ⟨name, named, made⟩ := lift_bind_eq_ok ran
  cases made
  exact ⟨index, rfl, name, (className_eq_ok_iff kept).mp named⟩

/-- A parent that is found is the class at its index. -/
theorem parentName_eq_ok (kept : slots.toList = .unusable :: entries.flatMap Entry.slots)
    {index : UInt16} (found : Pool.parentName ⟨slots⟩ index = .ok parent) :
    (parent = none ↔ index = 0) ∧ ∀ name, parent = some name → NamesClass entries index name := by
  unfold Pool.parentName at found
  split at found
  · next zero =>
    cases found
    exact ⟨by simp [zero], nofun⟩
  · next some =>
    obtain ⟨name, named, rfl⟩ := Effect.except_map_eq_ok.mp found
    refine ⟨by simp [some], ?_⟩
    rintro _ ⟨⟩
    exact (className_eq_ok_iff kept).mp named

/-- The tables begin with the interfaces, which are checked, and the references come from the
constants. -/
theorem readTables_eq_ok (kept : slots.toList = .unusable :: entries.flatMap Entry.slots)
    (ran : (readTables ⟨slots⟩ declared parent).run cursor = .ok (summary, after)) :
    ∃ interfaces further names methods, interfaces.length < 2 ^ 16 ∧
      cursor.rest = tableBytes (fun index : UInt16 => written 2 index.toNat) interfaces ++ further ∧
      (∀ index ∈ interfaces, ∃ name, NamesClass entries index name) ∧
      List.Forall₂ (NamesText entries) (entries.filterMap Entry.nameIndex?) names ∧
      summary = { declared, parent, references := referencesOf declared names, methods } := by
  obtain ⟨offset, bytes⟩ := cursor
  obtain ⟨interfaceCount, between, read, ran⟩ := run_bind_eq_ok ran
  obtain ⟨behind, rfl, rfl⟩ := Reader.u2_eq_ok read
  obtain ⟨checked, between, checks, ran⟩ := run_bind_eq_ok ran
  obtain ⟨fieldCount, further, -, ran⟩ := run_bind_eq_ok ran
  obtain ⟨fields, further, -, ran⟩ := run_bind_eq_ok ran
  obtain ⟨methodCount, further, -, ran⟩ := run_bind_eq_ok ran
  obtain ⟨methods, further, -, ran⟩ := run_bind_eq_ok ran
  obtain ⟨names, classes, made⟩ := lift_bind_eq_ok ran
  cases made
  obtain ⟨interfaces, sized, front, each⟩ := Reader.times_eq_ok
    (fun _ _ _ => checkInterface_eq_ok kept) checks
  dsimp only at front
  refine ⟨interfaces, between.rest, names, methods, ?_, ?_, each,
    (classNames_eq_ok_iff kept).mp classes, rfl⟩
  · rw [sized]
    exact interfaceCount.toNat_lt
  · rw [tableBytes, sized, front, List.append_assoc]

/-- What is read after the constants covers what the tables name. -/
theorem covers_of_readRest (kept : slots.toList = .unusable :: entries.flatMap Entry.slots)
    (ran : (readRest ⟨slots⟩).run cursor = .ok (summary, after)) :
    ∃ declaredIndex parentIndex interfaces,
      HoldsIndices cursor.rest declaredIndex parentIndex interfaces ∧
      summary.Covers entries declaredIndex parentIndex interfaces := by
  obtain ⟨offset, bytes⟩ := cursor
  obtain ⟨nothing, between, skipped, ran⟩ := run_bind_eq_ok ran
  obtain ⟨access, behind, rfl, rfl⟩ := Reader.skip_two_eq_ok skipped
  obtain ⟨declaredIndex, between, read, ran⟩ := run_bind_eq_ok ran
  obtain ⟨behind, rfl, rfl⟩ := Reader.u2_eq_ok read
  obtain ⟨parentIndex, between, read, ran⟩ := run_bind_eq_ok ran
  obtain ⟨behind, rfl, rfl⟩ := Reader.u2_eq_ok read
  obtain ⟨declared, named, ran⟩ := lift_bind_eq_ok ran
  obtain ⟨parent, extended, ran⟩ := lift_bind_eq_ok ran
  obtain ⟨interfaces, further, names, methods, few, front, each, found, rfl⟩ :=
    readTables_eq_ok kept ran
  have first := areFirst_referencesOf declared names
  -- A class that a table names is among the constants.
  have offers {number : UInt16} {name : String} (named : NamesClass entries number name) :
      name ∈ referencesOf declared names ∨ name = declared ∨ name.toList.head? = some '[' := by
    by_cases own : name = declared
    · exact .inr (.inl own)
    · by_cases array : name.toList.head? = some '['
      · exact .inr (.inr array)
      · exact .inl ((first.mem_iff name).mpr ⟨named.mem_of_forall₂ found kept, own, array⟩)
  obtain ⟨absent, heir⟩ := parentName_eq_ok kept extended
  refine ⟨declaredIndex, parentIndex, interfaces, ⟨access, further, few, ?_⟩,
    (className_eq_ok_iff kept).mp named, absent, fun name same => ?_, fun index member => ?_,
    names, found, first⟩
  · dsimp only at front ⊢
    rw [front]
  · exact ⟨heir name same, offers (heir name same)⟩
  · obtain ⟨name, named⟩ := each index member
    exact ⟨name, named, offers named⟩

end Tables

section Whole

variable {bytes rest : List UInt8} {entries : List Entry} {summary : Summary}

/-- What is read of a file that holds constants is what is read after them. -/
theorem HoldsConstants.exists_parse_eq (holds : HoldsConstants bytes entries rest) :
    ∃ slots offset, slots.toList = Constant.unusable :: entries.flatMap Entry.slots ∧
      parse bytes = ((readRest ⟨slots⟩).run ⟨offset, rest⟩).map (·.1) := by
  obtain ⟨minor, major, count, whole, asks, done⟩ := holds
  obtain ⟨⟨index, slots, offset, _⟩, reached, rfl, rfl, kept⟩ :=
    exists_reached_of_asksFor asks whole
  refine ⟨slots, offset, kept, ?_⟩
  rw [reached.parse_eq, fill_done done, pure_bind]

/-- A file that is read holds constants. -/
theorem exists_holdsConstants (parsed : parse bytes = .ok summary) :
    ∃ entries rest, HoldsConstants bytes entries rest := by
  obtain ⟨⟨_, after⟩, ran, rfl⟩ := Effect.except_map_eq_ok.mp parsed
  rw [read_eq] at ran
  obtain ⟨count, cursor, opened, -⟩ := Reader.run_bind_eq_ok ran
  obtain ⟨last, reached, ends⟩ := (Reached.start opened).exists_ends
  cases ends with
  | done full _ =>
    obtain ⟨entries, holds, asks⟩ := reached.exists_asksFor
    obtain ⟨minor, major, whole⟩ := holds.whole
    exact ⟨entries, last.cursor.rest, minor, major, count, whole, asks, holds.index ▸ full⟩
  | failed fault _ refused =>
    rw [refused] at parsed
    cases parsed

/-- A summary covers what the tables of the file name. -/
theorem HoldsConstants.covers (holds : HoldsConstants bytes entries rest)
    (parsed : parse bytes = .ok summary) : ∃ declaredIndex parentIndex interfaces,
      HoldsIndices rest declaredIndex parentIndex interfaces ∧
      summary.Covers entries declaredIndex parentIndex interfaces := by
  obtain ⟨slots, offset, kept, same⟩ := holds.exists_parse_eq
  rw [same] at parsed
  obtain ⟨⟨_, after⟩, ran, rfl⟩ := Effect.except_map_eq_ok.mp parsed
  exact covers_of_readRest kept ran

/-- In a file that is read each class among the constants has a name. -/
theorem HoldsConstants.exists_namesText {nameIndex : UInt16}
    (holds : HoldsConstants bytes entries rest) (parsed : parse bytes = .ok summary)
    (member : .classNamed nameIndex ∈ entries) : ∃ name, NamesText entries nameIndex name := by
  obtain ⟨_, _, _, -, covers⟩ := holds.covers parsed
  obtain ⟨names, found, -⟩ := covers.references
  have inside : nameIndex ∈ entries.filterMap Entry.nameIndex? :=
    List.mem_filterMap.mpr ⟨_, member, rfl⟩
  obtain ⟨name, -, named⟩ := exists_of_mem_left found inside
  exact ⟨name, named⟩

/-- Every supertype is among the references. A file that is read holds constants, and whichever it
holds, the references are the names of the classes among them, but for the class itself and for
arrays, each once and as they first occur; the parent and the interfaces that the tables name are
among these with the same exceptions. A file is refused if a class among its constants has no text
for a name, wherever that class is used. -/
theorem offers_supertypes (bytes : List UInt8) :
    (∀ summary, parse bytes = .ok summary →
      (∃ entries rest, HoldsConstants bytes entries rest) ∧
      ∀ entries rest, HoldsConstants bytes entries rest →
        ∃ declaredIndex parentIndex interfaces,
          HoldsIndices rest declaredIndex parentIndex interfaces ∧
          summary.Covers entries declaredIndex parentIndex interfaces) ∧
    ∀ entries rest nameIndex, HoldsConstants bytes entries rest →
      .classNamed nameIndex ∈ entries → (¬ ∃ name, NamesText entries nameIndex name) →
      ∃ fault, parse bytes = .error fault := by
  refine ⟨fun summary parsed => ⟨exists_holdsConstants parsed, fun _ _ holds =>
    holds.covers parsed⟩, fun entries rest nameIndex holds member unnamed => ?_⟩
  cases parsed : parse bytes with
  | ok summary => exact absurd (holds.exists_namesText parsed member) unnamed
  | error fault => exact ⟨fault, rfl⟩

/-- The bytes of a layout hold its constants, whatever follows. -/
theorem Layout.holdsConstants (layout : Layout) (rest : List UInt8) :
    HoldsConstants (layout.bytes ++ rest) layout.entries (layout.bytesAfterPool ++ rest) := by
  refine ⟨layout.minor, layout.major, layout.count, ?_, layout.asksFor, UInt16.lt_irrefl _⟩
  rw [Layout.bytes, List.append_assoc]

/-- A class `D` which extends `E` and implements `F` and `E`. Two constants name `D`, and two `E`;
a long constant stands between them. -/
def repeatingLayout : Layout where
  minor := 0
  major := 52
  entries := [.text [0x44] (by decide), .classNamed 1,
    .plain .long [0, 0, 0, 0, 0, 0, 0, 1] rfl, .text [0x45] (by decide), .classNamed 5,
    .classNamed 1, .text [0x46] (by decide), .classNamed 8, .classNamed 5]
  bounded := by decide
  access := 0x21
  declaredIndex := 7
  parentIndex := 10
  interfaces := [9, 6]
  fewInterfaces := by decide
  fields := []
  fewFields := by decide
  methods := []
  fewMethods := by decide

/-- The same with one more constant, which no table uses: a class whose name should be under the
number of another class. -/
def unnamedLayout : Layout :=
  { repeatingLayout with
    entries := repeatingLayout.entries ++ [.classNamed 2]
    bounded := by decide }

/-- The first file is read, and offers `E` and `F`; the second one is refused. -/
theorem repeating_offers_supertypes :
    (∃ summary, parse repeatingLayout.bytes = .ok summary ∧ summary.references = ["E", "F"] ∧
      ∃ declaredIndex parentIndex interfaces,
        HoldsIndices repeatingLayout.bytesAfterPool declaredIndex parentIndex interfaces ∧
        summary.Covers repeatingLayout.entries declaredIndex parentIndex interfaces) ∧
    ∃ fault, parse unnamedLayout.bytes = .error fault := by
  have holds := repeatingLayout.holdsConstants []
  have holdsUnnamed := unnamedLayout.holdsConstants []
  rw [List.append_nil, List.append_nil] at holds holdsUnnamed
  constructor
  · have parsed : parse repeatingLayout.bytes = .ok ⟨"D", some "E", ["E", "F"], []⟩ := by
      decide +kernel
    exact ⟨_, parsed, rfl, ((offers_supertypes _).1 _ parsed).2 _ _ holds⟩
  · refine (offers_supertypes _).2 _ _ 2 holdsUnnamed (by simp [unnamedLayout]) ?_
    rintro ⟨_, content, short, numbered, rfl⟩
    have found := numbered.getElem?_eq
    cases found

end Whole

end DecompileServer.ClassFile

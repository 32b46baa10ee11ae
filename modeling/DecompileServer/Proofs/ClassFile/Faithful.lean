import DecompileServer.Proofs.ClassFile.Filling
import DecompileServer.Proofs.Related
import DecompileServer.Proofs.Text.Utf8

/-!
# Class files are read as what they say

A layout is well named if every index at which a class or a method is named leads to a text. Its
bytes are then read as the names that it gives, whatever follows them: those of the class, its
parent and its methods, and the classes that its constants name, each once.
-/
namespace DecompileServer.ClassFile

/-- Whether a name is the text at an index. -/
def NamesText (entries : List Entry) (index : UInt16) (name : String) : Prop :=
  ∃ content short, Numbered entries index.toNat (.text content short) ∧
    Utf8.decodeLossy content = name

/-- Whether a name is that of the class at an index. -/
def NamesClass (entries : List Entry) (index : UInt16) (name : String) : Prop :=
  ∃ nameIndex, Numbered entries index.toNat (.classNamed nameIndex) ∧
    NamesText entries nameIndex name

/-- The index of the name that a constant gives to a class. -/
def Entry.nameIndex? : Entry → Option UInt16
  | .classNamed nameIndex => some nameIndex
  | _ => none

namespace Layout

/-- Whether the indices of classes and of the names of methods lead to texts. -/
structure IsWellNamed (layout : Layout) : Prop where
  /-- The class has a name. -/
  declared : ∃ name, NamesClass layout.entries layout.declaredIndex name
  /-- So has its parent, if there is one. -/
  parent : layout.parentIndex ≠ 0 → ∃ name, NamesClass layout.entries layout.parentIndex name
  /-- So have the interfaces. -/
  interfaces : ∀ index ∈ layout.interfaces, ∃ name, NamesClass layout.entries index name
  /-- So have all classes among the constants. -/
  classes : ∀ nameIndex, .classNamed nameIndex ∈ layout.entries →
    ∃ name, NamesText layout.entries nameIndex name
  /-- So have the methods. -/
  methods : ∀ method ∈ layout.methods, ∃ name, NamesText layout.entries method.nameIndex name

/-- Whether a summary says what the layout does. -/
structure Declares (layout : Layout) (summary : Summary) : Prop where
  /-- The class is named. -/
  declared : NamesClass layout.entries layout.declaredIndex summary.declared
  /-- There is a parent unless its index is zero. -/
  parent_eq_none : summary.parent = none ↔ layout.parentIndex = 0
  /-- The parent is named. -/
  parent : ∀ name, summary.parent = some name → NamesClass layout.entries layout.parentIndex name
  /-- The methods are named in their order. -/
  methods : List.Forall₂ (fun method name => NamesText layout.entries method.nameIndex name)
    layout.methods summary.methods
  /-- The classes among the constants are named in their order, each once, but for the class itself
  and for arrays. -/
  references : ∃ names,
    List.Forall₂ (NamesText layout.entries) (layout.entries.filterMap Entry.nameIndex?) names ∧
    summary.references = (names.filter fun name =>
      name ≠ summary.declared ∧ name.toList.head? ≠ some '[').eraseDups

end Layout

section LookUp

variable {entries : List Entry} {slots : Array Constant} {index : UInt16} {name : String}

/-- A text is found in the pool under its number. -/
theorem NamesText.text_eq (names : NamesText entries index name)
    (kept : slots.toList = .unusable :: entries.flatMap Entry.slots) :
    Pool.text ⟨slots⟩ index = .ok name := by
  obtain ⟨content, short, numbered, rfl⟩ := names
  have found := numbered.getElem?_eq
  rw [← kept, Array.getElem?_toList] at found
  rw [Pool.text, found]
  rfl

/-- A class is found in the pool under its number. -/
theorem NamesClass.className_eq (names : NamesClass entries index name)
    (kept : slots.toList = .unusable :: entries.flatMap Entry.slots) :
    Pool.className ⟨slots⟩ index = .ok name := by
  obtain ⟨nameIndex, numbered, named⟩ := names
  have found := numbered.getElem?_eq
  rw [← kept, Array.getElem?_toList] at found
  rw [Pool.className, found]
  exact named.text_eq kept

/-- The texts at some indices are found in their order. -/
theorem mapM_text_eq {indices : List UInt16} {names : List String}
    (named : List.Forall₂ (NamesText entries) indices names)
    (kept : slots.toList = .unusable :: entries.flatMap Entry.slots) :
    indices.mapM (Pool.text ⟨slots⟩) = .ok names := by
  induction named with
  | nil => rfl
  | cons first _ ih =>
    rw [List.mapM_cons, first.text_eq kept, ih]
    rfl

/-- The classes that are kept are those among the constants. -/
theorem filterMap_slots (entries : List Entry) :
    ((.unusable :: entries.flatMap Entry.slots).filterMap fun constant : Constant =>
      match constant with
      | .classNamed nameIndex => some nameIndex
      | _ => none) = entries.filterMap Entry.nameIndex? := by
  rw [List.filterMap_cons_none rfl]
  induction entries with
  | nil => rfl
  | cons entry entries ih =>
    rw [List.flatMap_cons, List.filterMap_append, ih, List.filterMap_cons]
    cases entry with
    | plain kind content sized => cases kind <;> rfl
    | _ => rfl

/-- First occurrences are what is left without later ones. -/
theorem firstOccurrences_eq (names : List String) : firstOccurrences names = names.eraseDups := by
  induction names using List.reverseRecOn with
  | nil => rfl
  | append_singleton names name ih =>
    have step : firstOccurrences (names ++ [name]) =
        if (firstOccurrences names).contains name then firstOccurrences names
        else firstOccurrences names ++ [name] := by
      simp [firstOccurrences]
    rw [step, ih, List.eraseDups_append]
    by_cases known : name ∈ names
    · simp [known, List.removeAll]
    · simp [known, List.removeAll, List.eraseDups_cons]

end LookUp

section Tables

open Reader (Takes)

variable {entries : List Entry} {slots : Array Constant} {offset : Nat}

theorem takes_skipAttributes {items : List Attribute} (few : items.length < 2 ^ 16) :
    Takes skipAttributes offset (tableBytes Attribute.bytes items) (.ok ()) := by
  have each : List.Forall₂ (fun (item : Attribute) value => ∀ offset, Takes
      (Reader.skip 2 >>= fun _ => Reader.u4 >>= fun length => Reader.skip length.toNat)
      offset item.bytes (.ok value)) items (items.map fun _ => ()) := by
    refine List.forall₂_map_right_iff.mpr (List.forall₂_same.mpr fun item _ offset => ?_)
    refine (Reader.takes_skip_of_eq (length_written 2 _)).bind ?_
    refine (Reader.takes_u4_ofNat item.short).bind ?_
    exact Reader.takes_skip_of_eq (UInt32.toNat_ofNat_of_lt' item.short).symm
  have taken : Takes skipAttributes offset (tableBytes Attribute.bytes items ++ []) (.ok ()) :=
    Reader.takes_table_bind few each fun _ => Takes.pure ()
  rwa [List.append_nil] at taken

theorem takes_skipField (field : Member) : Takes skipField offset field.bytes (.ok ()) := by
  have parts : field.bytes = (written 2 field.access.toNat ++ (written 2 field.nameIndex.toNat ++
      written 2 field.typeIndex.toNat)) ++ tableBytes Attribute.bytes field.attributes := by
    simp [Member.bytes]
  rw [parts]
  exact (Reader.takes_skip_of_eq (by simp)).bind (takes_skipAttributes field.few)

theorem takes_readMethod {method : Member} {name : String}
    (named : NamesText entries method.nameIndex name)
    (kept : slots.toList = .unusable :: entries.flatMap Entry.slots) :
    Takes (readMethod ⟨slots⟩) offset method.bytes (.ok name) := by
  refine (Reader.takes_skip_of_eq (length_written 2 _)).bind ?_
  refine (Reader.takes_u2 method.nameIndex).bind ?_
  refine (Reader.takes_skip_of_eq (length_written 2 _)).bind ?_
  rw [Reader.lift_bind (named.text_eq kept)]
  exact (takes_skipAttributes method.few).bind_pure fun _ => name

theorem takes_checkInterface {index : UInt16} {name : String}
    (named : NamesClass entries index name)
    (kept : slots.toList = .unusable :: entries.flatMap Entry.slots) :
    Takes (checkInterface ⟨slots⟩) offset (written 2 index.toNat) (.ok ()) := by
  rw [← List.append_nil (written 2 index.toNat)]
  refine (Reader.takes_u2 index).bind ?_
  rw [Reader.lift_bind (named.className_eq kept)]
  exact Takes.pure ()

/-- The tables of a layout are read as the names that they give, and the classes are those among
its constants. -/
theorem Layout.takes_readTables {layout : Layout} {declared : String} {parent : Option String}
    {methods names : List String}
    (interfaces : ∀ index ∈ layout.interfaces, ∃ name, NamesClass layout.entries index name)
    (called : List.Forall₂ (fun method name => NamesText layout.entries method.nameIndex name)
      layout.methods methods)
    (found : List.Forall₂ (NamesText layout.entries) (layout.entries.filterMap Entry.nameIndex?)
      names)
    (kept : slots.toList = .unusable :: layout.entries.flatMap Entry.slots) :
    Takes (readTables ⟨slots⟩ declared parent) offset
      (tableBytes (fun index => written 2 index.toNat) layout.interfaces ++
        (tableBytes Member.bytes layout.fields ++ tableBytes Member.bytes layout.methods))
      (.ok { declared, parent, references := referencesOf declared names, methods }) := by
  have checks : List.Forall₂ (fun (index : UInt16) value => ∀ offset, Takes (checkInterface ⟨slots⟩)
      offset (written 2 index.toNat) (.ok value)) layout.interfaces
      (layout.interfaces.map fun _ => ()) := by
    refine List.forall₂_map_right_iff.mpr (List.forall₂_same.mpr fun index member offset => ?_)
    obtain ⟨name, named⟩ := interfaces index member
    exact takes_checkInterface named kept
  have skips : List.Forall₂ (fun (field : Member) value => ∀ offset, Takes skipField offset
      field.bytes (.ok value)) layout.fields (layout.fields.map fun _ => ()) :=
    List.forall₂_map_right_iff.mpr (List.forall₂_same.mpr fun field _ _ => takes_skipField field)
  have reads : List.Forall₂ (fun (method : Member) name => ∀ offset, Takes (readMethod ⟨slots⟩)
      offset method.bytes (.ok name)) layout.methods methods :=
    called.imp fun _ _ named _ => takes_readMethod named kept
  have classes : Pool.classNames ⟨slots⟩ = .ok names := by
    rw [← mapM_text_eq found kept, ← filterMap_slots, ← kept]
    rfl
  refine Reader.takes_table_bind layout.fewInterfaces checks fun _ => ?_
  refine Reader.takes_table_bind layout.fewFields skips fun _ => ?_
  rw [← List.append_nil (tableBytes Member.bytes layout.methods)]
  refine Reader.takes_table_bind layout.fewMethods reads fun _ => ?_
  rw [Reader.lift_bind classes]
  exact Takes.pure _

end Tables

section Writing

/-- The bytes by which the format writes a code of sixteen bits: from one to three, none of them
zero. -/
def codeBytes (code : Nat) : List UInt8 :=
  if code = 0 ∨ 0x7F < code ∧ code ≤ 0x7FF then
    [.ofNat (0xC0 + code / 64), .ofNat (0x80 + code % 64)]
  else if code ≤ 0x7F then [.ofNat code]
  else [.ofNat (0xE0 + code / 4096), .ofNat (0x80 + code / 64 % 64), .ofNat (0x80 + code % 64)]

/-- The bytes by which the format writes a character: a code past sixteen bits is written as the two
halves of its surrogate pair. -/
def characterBytes (character : Char) : List UInt8 :=
  let code := character.toNat
  if code < 0x10000 then codeBytes code
  else codeBytes (0xD800 + (code - 0x10000) / 0x400) ++
    codeBytes (0xDC00 + (code - 0x10000) % 0x400)

/-- The bytes by which the format writes a text. -/
def textBytes (text : String) : List UInt8 :=
  text.toList.flatMap characterBytes

/-- The format writes a character as UTF-8 does, but for zero and what is past sixteen bits. -/
theorem characterBytes_eq {character : Char} (positive : character.toNat ≠ 0)
    (narrow : character.toNat < 0x10000) :
    characterBytes character = String.utf8EncodeChar character := by
  have same : character.val.toNat = character.toNat := rfl
  simp only [characterBytes, codeBytes, String.utf8EncodeChar, same, if_pos narrow]
  clear same
  generalize character.toNat = code at positive narrow
  by_cases one : code ≤ 127
  · rw [if_neg (by omega), if_pos one, if_pos one]
  · by_cases two : code ≤ 2047
    · have leading : 192 + code / 64 = code / 64 % 32 + 192 := by omega
      rw [if_pos (by omega), if_neg one, if_pos two, leading, Nat.add_comm 128]
    · have leading : 224 + code / 4096 = code / 4096 % 16 + 224 := by omega
      rw [if_neg (by omega), if_neg one, if_neg one, if_neg two, if_pos (by omega), leading,
        Nat.add_comm 128, Nat.add_comm 128]

/-- A text without zero and without characters past sixteen bits is read as it. -/
theorem decodeLossy_textBytes {text : String}
    (plain : ∀ character ∈ text.toList, character.toNat ≠ 0 ∧ character.toNat < 0x10000) :
    Utf8.decodeLossy (textBytes text) = text := by
  have same : textBytes text = Utf8.encode text := by
    unfold textBytes Utf8.encode
    refine List.flatMap_congr fun character member => ?_
    obtain ⟨positive, narrow⟩ := plain character member
    exact characterBytes_eq positive narrow
  rw [same]
  exact Utf8.decodeLossy_encode text

end Writing

section Whole

variable {layout : Layout}

/-- The count of a layout asks for its constants. -/
theorem Layout.asksFor (layout : Layout) : AsksFor layout.count layout.entries := by
  have count : layout.count.toNat = 1 + totalWidth layout.entries :=
    UInt16.toNat_ofNat_of_lt' layout.bounded
  exact asksFor_of_le (Nat.le_of_eq count.symm)

/-- The loop comes to the end of the constants of a layout, with all of them kept. -/
theorem Layout.exists_reached (layout : Layout) (rest : List UInt8) :
    ∃ filling, Reached (layout.bytes ++ rest) layout.count filling ∧
      ¬ filling.index < layout.count ∧ filling.cursor.rest = layout.bytesAfterPool ++ rest ∧
      filling.slots.toList = .unusable :: layout.entries.flatMap Entry.slots := by
  have whole : layout.bytes ++ rest =
      bytesToPool layout.minor layout.major layout.count layout.entries ++
        (layout.bytesAfterPool ++ rest) := by
    rw [Layout.bytes, List.append_assoc]
  obtain ⟨filling, reached, index, ahead, kept⟩ := exists_reached_of_asksFor layout.asksFor whole
  refine ⟨filling, reached, ?_, ahead, kept⟩
  rw [index]
  exact UInt16.lt_irrefl _

/-- What follows the constants of a layout is read as what the layout says. -/
theorem Layout.IsWellNamed.exists_takes_readRest (named : layout.IsWellNamed)
    {slots : Array Constant} (offset : Nat)
    (kept : slots.toList = .unusable :: layout.entries.flatMap Entry.slots) :
    ∃ summary, layout.Declares summary ∧
      Reader.Takes (readRest ⟨slots⟩) offset layout.bytesAfterPool (.ok summary) := by
  obtain ⟨declared, declares⟩ := named.declared
  obtain ⟨methods, called⟩ := exists_forall₂_left named.methods
  obtain ⟨names, found⟩ : ∃ names, List.Forall₂ (NamesText layout.entries)
      (layout.entries.filterMap Entry.nameIndex?) names := by
    refine exists_forall₂_left fun nameIndex member => ?_
    obtain ⟨entry, inside, names⟩ := List.mem_filterMap.mp member
    cases entry with
    | classNamed index =>
      cases names
      exact named.classes nameIndex inside
    | text => cases names
    | plain => cases names
  obtain ⟨parent, extended, absent, present⟩ : ∃ parent,
      Pool.parentName ⟨slots⟩ layout.parentIndex = .ok parent ∧
      (parent = none ↔ layout.parentIndex = 0) ∧
      ∀ name, parent = some name → NamesClass layout.entries layout.parentIndex name := by
    by_cases root : layout.parentIndex = 0
    · exact ⟨none, by rw [Pool.parentName, if_pos root], by simp [root], nofun⟩
    · obtain ⟨name, heir⟩ := named.parent root
      refine ⟨some name, ?_, by simp [root], ?_⟩
      · rw [Pool.parentName, if_neg root, heir.className_eq kept]
        rfl
      · rintro _ ⟨⟩
        exact heir
  refine ⟨{ declared, parent, references := referencesOf declared names, methods },
    ⟨declares, absent, present, called, names, found, firstOccurrences_eq _⟩, ?_⟩
  refine (Reader.takes_skip_of_eq (length_written 2 _)).bind ?_
  refine (Reader.takes_u2 layout.declaredIndex).bind ?_
  refine (Reader.takes_u2 layout.parentIndex).bind ?_
  rw [Reader.lift_bind (declares.className_eq kept), Reader.lift_bind extended]
  exact layout.takes_readTables named.interfaces called found kept

/-- A class file is read as what it says. Whatever follows the bytes of a well-named layout, its
class, its parent and its methods get their names, and so do the classes to which it refers. The name
of a text in UTF-8 is the text, and so it is with what the format writes for a text, where that has no
zero and nothing past sixteen bits. -/
theorem reads_what_is_said (layout : Layout) (named : layout.IsWellNamed) :
    (∀ rest, ∃ summary, parse (layout.bytes ++ rest) = .ok summary ∧ layout.Declares summary) ∧
    (∀ text, Utf8.decodeLossy (Utf8.encode text) = text) ∧
    (∀ text : String,
      (∀ character ∈ text.toList, character.toNat ≠ 0 ∧ character.toNat < 0x10000) →
        Utf8.decodeLossy (textBytes text) = text) := by
  refine ⟨fun rest => ?_, Utf8.decodeLossy_encode, fun _ => decodeLossy_textBytes⟩
  obtain ⟨⟨index, slots, offset, _⟩, reached, done, rfl, kept⟩ := layout.exists_reached rest
  obtain ⟨summary, declares, taken⟩ := named.exists_takes_readRest offset kept
  refine ⟨summary, ?_, declares⟩
  rw [reached.parse_eq, fill_done done, pure_bind, taken.run]
  rfl

/-- A class `C` with a long constant before the names of the array `[C` and of its parent `B`, which
is also its interface. Two methods are called `run`. -/
def sampleLayout : Layout where
  minor := 0
  major := 52
  entries := [.text [0x43] (by decide), .classNamed 1,
    .plain .long [0, 0, 0, 0, 0, 0, 0, 42] rfl, .text [0x5B, 0x43] (by decide), .classNamed 5,
    .text [0x72, 0x75, 0x6E] (by decide), .classNamed 9, .text [0x42] (by decide)]
  bounded := by decide
  access := 0x21
  declaredIndex := 2
  parentIndex := 8
  interfaces := [8]
  fewInterfaces := by decide
  fields := [⟨2, 7, 5, [], by decide⟩]
  fewFields := by decide
  methods := [⟨1, 7, 5, [⟨7, [1, 2, 3], by decide⟩], by decide⟩, ⟨4, 7, 9, [], by decide⟩]
  fewMethods := by decide

/-- The sample is read as what it says. -/
theorem reads_sample : sampleLayout.IsWellNamed ∧
    ∃ summary, parse (sampleLayout.bytes ++ [0, 0]) = .ok summary ∧
      sampleLayout.Declares summary := by
  let entries := sampleLayout.entries
  have first : NamesText entries 1 "C" :=
    ⟨_, _, ⟨entries.take 0, entries.drop 1, rfl, rfl⟩, rfl⟩
  have fifth : NamesText entries 5 "[C" :=
    ⟨_, _, ⟨entries.take 3, entries.drop 4, rfl, rfl⟩, rfl⟩
  have seventh : NamesText entries 7 "run" :=
    ⟨_, _, ⟨entries.take 5, entries.drop 6, rfl, rfl⟩, rfl⟩
  have ninth : NamesText entries 9 "B" :=
    ⟨_, _, ⟨entries.take 7, entries.drop 8, rfl, rfl⟩, rfl⟩
  have eighth : NamesClass entries 8 "B" :=
    ⟨9, ⟨entries.take 6, entries.drop 7, rfl, rfl⟩, ninth⟩
  have named : sampleLayout.IsWellNamed := by
    refine ⟨⟨"C", 1, ⟨entries.take 1, entries.drop 2, rfl, rfl⟩, first⟩, fun _ => ⟨"B", eighth⟩,
      ?_, ?_, ?_⟩
    · intro index member
      obtain rfl := List.mem_singleton.mp member
      exact ⟨"B", eighth⟩
    · intro nameIndex member
      simp only [sampleLayout, List.mem_cons, List.not_mem_nil, or_false, reduceCtorEq, false_or,
        Entry.classNamed.injEq] at member
      obtain rfl | rfl | rfl := member
      · exact ⟨"C", first⟩
      · exact ⟨"[C", fifth⟩
      · exact ⟨"B", ninth⟩
    · intro method member
      simp only [sampleLayout, List.mem_cons, List.not_mem_nil, or_false] at member
      obtain rfl | rfl := member
      · exact ⟨"run", seventh⟩
      · exact ⟨"run", seventh⟩
  exact ⟨named, (reads_what_is_said sampleLayout named).1 [0, 0]⟩

end Whole

end DecompileServer.ClassFile

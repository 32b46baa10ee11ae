import DecompileServer.ClassFile.Summary
import DecompileServer.Proofs.ClassFile.Reading

/-!
# The layout of class files

A class file is a constant pool, the indices of the class, its parent and its interfaces, and tables
of fields and methods, each written most significant byte first. The constants are numbered from one
in the order in which they stand, and a long or double constant takes two numbers (`Numbered`). A
text is given by its bytes, so that nothing is assumed of its encoding.
-/
namespace DecompileServer.ClassFile

/-- The kinds of constants that neither are a text nor name a class. -/
inductive Kind where
  | integer
  | float
  | long
  | double
  | string
  | field
  | method
  | interfaceMethod
  | nameAndType
  | methodHandle
  | methodType
  | dynamic
  | invokeDynamic
  | moduleName
  | packageName
  deriving DecidableEq

namespace Kind

/-- The byte that stands before a constant of the kind. -/
def tag : Kind → UInt8
  | integer => 3
  | float => 4
  | long => 5
  | double => 6
  | string => 8
  | field => 9
  | method => 10
  | interfaceMethod => 11
  | nameAndType => 12
  | methodHandle => 15
  | methodType => 16
  | dynamic => 17
  | invokeDynamic => 18
  | moduleName => 19
  | packageName => 20

/-- The number of bytes of a constant of the kind: a number, or one or two indices, with a byte
before the index of a method handle. -/
def size : Kind → Nat
  | string | methodType | moduleName | packageName => 2
  | methodHandle => 3
  | integer | float | field | method | interfaceMethod | nameAndType | dynamic | invokeDynamic => 4
  | long | double => 8

/-- What is kept of a constant of the kind, for each number that it takes. -/
def slots : Kind → List Constant
  | long | double => [.other, .unusable]
  | _ => [.other]

end Kind

/-- A constant as it stands in a class file. -/
inductive Entry where
  /-- A text. -/
  | text (content : List UInt8) (short : content.length < 2 ^ 16)
  /-- The class whose name is the text at an index. -/
  | classNamed (nameIndex : UInt16)
  /-- A constant of another kind. -/
  | plain (kind : Kind) (content : List UInt8) (sized : content.length = kind.size)

namespace Entry

/-- The bytes of a constant. -/
def bytes : Entry → List UInt8
  | .text content _ => 1 :: (written 2 content.length ++ content)
  | .classNamed nameIndex => 7 :: written 2 nameIndex.toNat
  | .plain kind content _ => kind.tag :: content

/-- What is kept of a constant, for each number that it takes. -/
def slots : Entry → List Constant
  | .text content _ => [.text (Utf8.decodeLossy content)]
  | .classNamed nameIndex => [.classNamed nameIndex]
  | .plain kind _ _ => kind.slots

/-- What is kept of a constant under its own number. -/
def kept : Entry → Constant
  | .text content _ => .text (Utf8.decodeLossy content)
  | .classNamed nameIndex => .classNamed nameIndex
  | .plain .. => .other

/-- How many numbers a constant takes. -/
def width : Entry → Nat
  | .plain .long _ _ | .plain .double _ _ => 2
  | _ => 1

@[simp] theorem length_slots (entry : Entry) : entry.slots.length = entry.width := by
  cases entry with
  | plain kind content sized => cases kind <;> rfl
  | _ => rfl

@[simp] theorem head?_slots (entry : Entry) : entry.slots.head? = some entry.kept := by
  cases entry with
  | plain kind content sized => cases kind <;> rfl
  | _ => rfl

theorem width_eq (entry : Entry) : entry.width = 1 ∨ entry.width = 2 := by
  cases entry with
  | plain kind content sized => cases kind <;> simp [width]
  | _ => exact .inl rfl

theorem bytes_ne_nil (entry : Entry) : entry.bytes ≠ [] := by
  cases entry <;> simp [bytes]

end Entry

/-- How many numbers constants take. -/
def totalWidth (entries : List Entry) : Nat :=
  (entries.map Entry.width).sum

@[simp] theorem totalWidth_nil : totalWidth [] = 0 := rfl

@[simp] theorem totalWidth_cons (entry : Entry) (entries : List Entry) :
    totalWidth (entry :: entries) = entry.width + totalWidth entries := by
  simp [totalWidth]

@[simp] theorem totalWidth_append (front back : List Entry) :
    totalWidth (front ++ back) = totalWidth front + totalWidth back := by
  simp [totalWidth]

@[simp] theorem totalWidth_replicate (number : Nat) (entry : Entry) :
    totalWidth (List.replicate number entry) = number * entry.width := by
  simp [totalWidth]

theorem length_flatMap_slots (entries : List Entry) :
    (entries.flatMap Entry.slots).length = totalWidth entries := by
  simp [List.length_flatMap, totalWidth]

/-- Whether a constant has a number: those before it take the numbers from one on. -/
def Numbered (entries : List Entry) (index : Nat) (entry : Entry) : Prop :=
  ∃ front back, entries = front ++ entry :: back ∧ index = 1 + totalWidth front

/-- A constant is kept under its number. -/
theorem Numbered.getElem?_eq {entries : List Entry} {index : Nat} {entry : Entry}
    (numbered : Numbered entries index entry) :
    (.unusable :: entries.flatMap Entry.slots)[index]? = some entry.kept := by
  obtain ⟨front, back, rfl, rfl⟩ := numbered
  have length := length_flatMap_slots front
  have behind : totalWidth front - (front.flatMap Entry.slots).length = 0 := by omega
  rw [Nat.add_comm, List.getElem?_cons_succ, List.flatMap_append, List.flatMap_cons,
    List.getElem?_append_right (by omega), behind, ← List.head?_eq_getElem?, List.head?_append,
    Entry.head?_slots, Option.some_or]

section Constants

variable {index : UInt16} {offset : Nat} {bytes : List UInt8} {read : List Constant}
  {after : Cursor}

/-- Reads what follows the tag of a constant. -/
def readContent (index : UInt16) (tag : UInt8) : Reader (List Constant) :=
  match tag.toNat with
  | 1 => do
    let length ← Reader.u2
    let bytes ← Reader.take length.toNat
    pure [.text (Utf8.decodeLossy bytes)]
  | 7 => do
    let nameIndex ← Reader.u2
    pure [.classNamed nameIndex]
  | 3 | 4 | 9 | 10 | 11 | 12 | 17 | 18 => do
    Reader.skip 4
    pure [.other]
  | 8 | 16 | 19 | 20 => do
    Reader.skip 2
    pure [.other]
  | 15 => do
    Reader.skip 3
    pure [.other]
  | 5 | 6 => do
    Reader.skip 8
    pure [.other, .unusable]
  | _ => throw (.unknownTag tag index)

/-- A constant is read as its tag and what follows. -/
theorem readConstant_eq (index : UInt16) :
    readConstant index = Reader.u1 >>= readContent index :=
  rfl

/-- A constant of a kind is passed over. -/
theorem readContent_tag (index : UInt16) (kind : Kind) :
    readContent index kind.tag = Reader.skip kind.size >>= fun _ => pure kind.slots := by
  cases kind <;> rfl

/-- What a tag says of the constant after it. -/
inductive TagCase (index : UInt16) : UInt8 → Prop where
  /-- The constant is a text. -/
  | text : TagCase index 1
  /-- The constant names a class. -/
  | classNamed : TagCase index 7
  /-- The constant is of another kind. -/
  | plain (kind : Kind) : TagCase index kind.tag
  /-- There is no constant with the tag. -/
  | unknown (tag : UInt8) (refused : readContent index tag = throw (.unknownTag tag index)) :
      TagCase index tag

/-- Every tag is one of them. -/
theorem tagCase (index : UInt16) (tag : UInt8) : TagCase index tag := by
  have of_eq {known : UInt8} (known_case : TagCase index known) (same : tag.toNat = known.toNat) :
      TagCase index tag :=
    UInt8.toNat_inj.mp same ▸ known_case
  by_cases known : tag.toNat ∈ [1, 3, 4, 5, 6, 7, 8, 9, 10, 11, 12, 15, 16, 17, 18, 19, 20]
  · simp only [List.mem_cons, List.not_mem_nil, or_false] at known
    rcases known with one | three | four | five | six | seven | eight | nine | ten | eleven |
      twelve | fifteen | sixteen | seventeen | eighteen | nineteen | twenty
    · exact of_eq .text one
    · exact of_eq (.plain .integer) three
    · exact of_eq (.plain .float) four
    · exact of_eq (.plain .long) five
    · exact of_eq (.plain .double) six
    · exact of_eq .classNamed seven
    · exact of_eq (.plain .string) eight
    · exact of_eq (.plain .field) nine
    · exact of_eq (.plain .method) ten
    · exact of_eq (.plain .interfaceMethod) eleven
    · exact of_eq (.plain .nameAndType) twelve
    · exact of_eq (.plain .methodHandle) fifteen
    · exact of_eq (.plain .methodType) sixteen
    · exact of_eq (.plain .dynamic) seventeen
    · exact of_eq (.plain .invokeDynamic) eighteen
    · exact of_eq (.plain .moduleName) nineteen
    · exact of_eq (.plain .packageName) twenty
  · refine .unknown tag ?_
    unfold readContent
    split
    all_goals simp_all

/-- The bytes of a constant are read as it. -/
theorem Entry.takes (entry : Entry) :
    Reader.Takes (readConstant index) offset entry.bytes (.ok entry.slots) := by
  rw [readConstant_eq]
  cases entry with
  | text content short =>
    have raw (start : Nat) : Reader.Takes (Reader.take (UInt16.ofNat content.length).toNat) start
        content (.ok content) := by
      rw [UInt16.toNat_ofNat_of_lt' short]
      exact Reader.Takes.take content
    exact (Reader.takes_u1 1).bind ((Reader.takes_u2_ofNat short).bind
      ((raw _).bind_pure fun bytes => [Constant.text (Utf8.decodeLossy bytes)]))
  | classNamed nameIndex =>
    exact (Reader.takes_u1 7).bind
      ((Reader.takes_u2 nameIndex).bind_pure fun nameIndex => [Constant.classNamed nameIndex])
  | plain kind content sized =>
    refine (Reader.takes_u1 kind.tag).bind ?_
    rw [readContent_tag]
    exact (Reader.takes_skip_of_eq sized).bind_pure fun _ => kind.slots

/-- What is read as a constant are the bytes of one. -/
theorem exists_entry_of_run_eq_ok
    (ran : (readConstant index).run ⟨offset, bytes⟩ = .ok (read, after)) :
    ∃ entry : Entry, bytes = entry.bytes ++ after.rest ∧ read = entry.slots ∧
      after.offset = offset + entry.bytes.length := by
  rw [readConstant_eq] at ran
  obtain ⟨tag, between, tagRead, contentRead⟩ := Reader.run_bind_eq_ok ran
  obtain ⟨content, rfl, rfl⟩ := Reader.u1_eq_ok tagRead
  cases tagCase index tag with
  | text =>
    obtain ⟨length, between, lengthRead, textRead⟩ := Reader.run_bind_eq_ok contentRead
    obtain ⟨behind, rfl, rfl⟩ := Reader.u2_eq_ok lengthRead
    obtain ⟨text, between, taken, made⟩ := Reader.run_bind_eq_ok textRead
    obtain ⟨rest, rfl, sized, rfl⟩ := Reader.take_eq_ok taken
    cases made
    have short : text.length < 2 ^ 16 := sized ▸ length.toNat_lt
    refine ⟨.text text short, ?_, rfl, ?_⟩
    · simp [Entry.bytes, sized]
    · simp [Entry.bytes, sized]
      omega
  | classNamed =>
    obtain ⟨nameIndex, between, nameRead, made⟩ := Reader.run_bind_eq_ok contentRead
    obtain ⟨rest, rfl, rfl⟩ := Reader.u2_eq_ok nameRead
    cases made
    exact ⟨.classNamed nameIndex, rfl, rfl, by simp [Entry.bytes, Nat.add_assoc]⟩
  | plain kind =>
    rw [readContent_tag] at contentRead
    obtain ⟨nothing, between, skipped, made⟩ := Reader.run_bind_eq_ok contentRead
    obtain ⟨raw, rest, rfl, sized, rfl⟩ := Reader.skip_eq_ok skipped
    cases made
    refine ⟨.plain kind raw sized, rfl, rfl, ?_⟩
    simp [Entry.bytes, sized]
    omega
  | unknown tag refused =>
    rw [refused] at contentRead
    cases contentRead

/-- A constant has at least one byte. -/
theorem length_rest_lt_of_run_eq_ok {cursor : Cursor}
    (ran : (readConstant index).run cursor = .ok (read, after)) :
    after.rest.length < cursor.rest.length := by
  obtain ⟨entry, whole, -, -⟩ := exists_entry_of_run_eq_ok ran
  have some := List.length_pos_iff.mpr entry.bytes_ne_nil
  rw [whole, List.length_append]
  omega

end Constants

/-- The bytes of a class file as far as its first constants. -/
def bytesToPool (minor major count : UInt16) (entries : List Entry) : List UInt8 :=
  written 4 magic.toNat ++ (written 2 minor.toNat ++ (written 2 major.toNat ++
    (written 2 count.toNat ++ entries.flatMap Entry.bytes)))

/-- The bytes of a table: the number of its items, and each item. -/
def tableBytes {γ : Type} (write : γ → List UInt8) (items : List γ) : List UInt8 :=
  written 2 items.length ++ items.flatMap write

/-- An attribute. -/
structure Attribute where
  /-- The index of its name. -/
  nameIndex : UInt16
  /-- Its bytes after their number. -/
  content : List UInt8
  short : content.length < 2 ^ 32

/-- The bytes of an attribute. -/
def Attribute.bytes (item : Attribute) : List UInt8 :=
  written 2 item.nameIndex.toNat ++ (written 4 item.content.length ++ item.content)

/-- A field or a method. -/
structure Member where
  /-- Its flags. -/
  access : UInt16
  /-- The index of its name. -/
  nameIndex : UInt16
  /-- The index of its type. -/
  typeIndex : UInt16
  /-- Its attributes. -/
  attributes : List Attribute
  few : attributes.length < 2 ^ 16

/-- The bytes of a field or a method. -/
def Member.bytes (member : Member) : List UInt8 :=
  written 2 member.access.toNat ++ (written 2 member.nameIndex.toNat ++
    (written 2 member.typeIndex.toNat ++ tableBytes Attribute.bytes member.attributes))

/-- A class file as far as the end of its methods. -/
structure Layout where
  /-- The second part of the version. -/
  minor : UInt16
  /-- The first part of the version. -/
  major : UInt16
  /-- The constants. -/
  entries : List Entry
  /-- The number that follows those of the constants can be written. -/
  bounded : 1 + totalWidth entries < 2 ^ 16
  /-- The flags of the class. -/
  access : UInt16
  /-- The index of the class. -/
  declaredIndex : UInt16
  /-- The index of the class that it extends, or zero. -/
  parentIndex : UInt16
  /-- The indices of the interfaces. -/
  interfaces : List UInt16
  fewInterfaces : interfaces.length < 2 ^ 16
  /-- The fields. -/
  fields : List Member
  fewFields : fields.length < 2 ^ 16
  /-- The methods. -/
  methods : List Member
  fewMethods : methods.length < 2 ^ 16

namespace Layout

/-- The number that follows those of the constants. -/
def count (layout : Layout) : UInt16 :=
  .ofNat (1 + totalWidth layout.entries)

/-- The bytes after the constants. -/
def bytesAfterPool (layout : Layout) : List UInt8 :=
  written 2 layout.access.toNat ++ (written 2 layout.declaredIndex.toNat ++
    (written 2 layout.parentIndex.toNat ++
      (tableBytes (fun index => written 2 index.toNat) layout.interfaces ++
        (tableBytes Member.bytes layout.fields ++ tableBytes Member.bytes layout.methods))))

/-- The bytes of a class file. -/
def bytes (layout : Layout) : List UInt8 :=
  bytesToPool layout.minor layout.major layout.count layout.entries ++ layout.bytesAfterPool

end Layout

end DecompileServer.ClassFile

import DecompileServer.Json.Printer
import DecompileServer.Proofs.Json.Objects

/-!
# Written values

A value is written without controls, so it stays on one line. What is written for a value whose
numbers are integers is one of the ways in which the grammar writes it (`IsTidy.writes`), so a text
that is written from such a value says this value and nothing else (`parse_members`).
-/
namespace DecompileServer.Json

section Strings

variable {character : Char}

/-- The code of a control is written in its escape. -/
theorem writesCode_of_control (control : character.toNat < 0x20) :
    WritesCode
      ['0', '0', Nat.digitChar (character.toNat / 16), Nat.digitChar (character.toNat % 16)]
      character.toNat :=
  ⟨_, _, _, _, 0, 0, character.toNat / 16, character.toNat % 16, rfl, ⟨by decide, .inl rfl⟩,
    ⟨by decide, .inl rfl⟩, ⟨by omega, .inl rfl⟩, ⟨by omega, .inl rfl⟩, by omega⟩

/-- The form of a character inside a string writes the character. -/
theorem writesCharacter_escapeCharacter (character : Char) :
    WritesCharacter (escapeCharacter character) character := by
  unfold escapeCharacter
  split
  case h_8 quote slash _ _ _ _ _ =>
    split
    · rename_i control
      have code := WritesCharacter.code (writesCode_of_control control) (.inl (by omega))
      rwa [Char.ofNat_toNat] at code
    · rename_i plain
      exact .plain quote slash plain
  all_goals exact .letter (by simp [letterEscapes])

/-- The form of a string writes the string. -/
theorem writesString_stringCharacters (text : String) :
    WritesString (stringCharacters text) text := by
  refine ⟨text.toList.map escapeCharacter, ?_, ?_⟩
  · rw [List.forall₂_map_left_iff, List.forall₂_same]
    exact fun character _ => writesCharacter_escapeCharacter character
  · rw [stringCharacters, List.flatMap_def]

end Strings

/-- A value without white space around it. -/
def Part.tight (value : Value) : Part where
  before := []
  blankBefore := by simp [AreSpaces]
  core := value.characters
  after := []
  blankAfter := by simp [AreSpaces]
  value := value

/-- A member without white space. -/
def Member.tight (entry : String × Value) : Member where
  before := []
  blankBefore := by simp [AreSpaces]
  name := stringCharacters entry.1
  key := entry.1
  named := writesString_stringCharacters entry.1
  after := []
  blankAfter := by simp [AreSpaces]
  part := .tight entry.2

namespace Value

variable {depth : Nat} {value : Value} {members : List (String × Value)}

/-- Whether a value comes back from its text: the keys of its objects are in order, its numbers are
integers, and no more than the given number of brackets and braces are inside one another. -/
inductive IsTidy : Nat → Value → Prop where
  /-- The value `null`. -/
  | null (depth : Nat) : IsTidy depth .null
  /-- A truth value. -/
  | boolean (depth : Nat) (value : Bool) : IsTidy depth (.boolean value)
  /-- An integer. -/
  | integer (depth : Nat) (value : Int) (wide : isWide value = true) :
      IsTidy depth (.number (.integer value wide))
  /-- A text. -/
  | string (depth : Nat) (value : String) : IsTidy depth (.string value)
  /-- An array. -/
  | array {depth : Nat} {elements : List Value} (each : ∀ element ∈ elements, IsTidy depth element) :
      IsTidy (depth + 1) (.array elements)
  /-- An object. -/
  | object {depth : Nat} {members : List (String × Value)}
      (sorted : members.Pairwise fun first second => first.1 < second.1)
      (each : ∀ member ∈ members, IsTidy depth member.2) : IsTidy (depth + 1) (.object members)

/-- The elements of an array are written with commas between them. -/
theorem elementCharacters_eq (elements : List Value) :
    elementCharacters elements =
      Text.joinWith ',' ((elements.map Part.tight).map Part.characters) := by
  induction elements with
  | nil => rfl
  | cons first further ih =>
    cases further with
    | nil => simp [elementCharacters, Part.tight, Part.characters, Text.joinWith]
    | cons second others =>
      rw [elementCharacters, ih]
      simp [Part.tight, Part.characters, Text.joinWith]

/-- The members of an object are written with commas between them. -/
theorem memberCharacters_eq (members : List (String × Value)) :
    memberCharacters members =
      Text.joinWith ',' ((members.map Member.tight).map Member.characters) := by
  induction members with
  | nil => rfl
  | cons first further ih =>
    obtain ⟨key, value⟩ := first
    cases further with
    | nil =>
      simp [memberCharacters, Member.tight, Member.characters, Part.tight, Part.characters,
        Text.joinWith]
    | cons second others =>
      rw [memberCharacters, ih]
      simp [Member.tight, Member.characters, Part.tight, Part.characters, Text.joinWith]

/-- The members between the braces are separated by commas. -/
theorem areSeparated_members (members : List (String × Value)) :
    AreSeparated (memberCharacters members) ((members.map Member.tight).map Member.characters) := by
  rw [memberCharacters_eq]
  exact areSeparated_joinWith _

/-- The members that are written are those of the object. -/
theorem map_entry_tight (members : List (String × Value)) :
    (members.map Member.tight).map Member.entry = members := by
  simp [Function.comp_def, Member.entry, Member.tight, Part.tight]

/-- A tidy value is written as the grammar has it. -/
theorem IsTidy.writes {depth : Nat} {value : Value} (tidy : IsTidy depth value) :
    Writes depth value.characters value := by
  induction tidy with
  | null depth => exact .null depth
  | boolean depth value =>
    cases value with
    | true => exact .yes depth
    | false => exact .no depth
  | integer depth value wide => exact .number depth ((writesNumber_integer_iff wide).mpr rfl)
  | string depth value => exact .string depth (writesString_stringCharacters value)
  | @array depth elements each ih =>
    have same : (elements.map Part.tight).map Part.value = elements := by
      simp [Function.comp_def, Part.tight]
    have separated : AreSeparated (elementCharacters elements)
        ((elements.map Part.tight).map Part.characters) := by
      rw [elementCharacters_eq]
      exact areSeparated_joinWith _
    have array := Writes.array separated (List.forall_mem_map.mpr ih)
    rwa [same] at array
  | @object depth members sorted each ih =>
    have object := Writes.object (areSeparated_members members) (List.forall_mem_map.mpr ih)
    rwa [map_entry_tight, ofMembers_of_sorted sorted] at object

/-- A tidy value is one with more room as well. -/
theorem IsTidy.mono {more : Nat} (tidy : IsTidy depth value) (room : depth ≤ more) :
    IsTidy more value := by
  induction tidy generalizing more with
  | null => exact .null more
  | boolean depth value => exact .boolean more value
  | integer depth value wide => exact .integer more value wide
  | string depth value => exact .string more value
  | array each ih =>
    obtain ⟨more, rfl⟩ := Nat.exists_eq_add_of_lt room
    exact .array fun element member => ih element member (by omega)
  | object sorted each ih =>
    obtain ⟨more, rfl⟩ := Nat.exists_eq_add_of_lt room
    exact .object sorted fun member inside => ih member inside (by omega)

/-- An object that is put together from tidy values is tidy. -/
theorem IsTidy.ofMembers (each : ∀ member ∈ members, IsTidy depth member.2) :
    IsTidy (depth + 1) (ofMembers members) := by
  have fold : ∀ known : List (String × Value),
      (known.Pairwise fun first second => first.1 < second.1) →
      (∀ member ∈ known, IsTidy depth member.2) → IsTidy (depth + 1) (.object
        (members.foldl (fun known member => insertMember member.1 member.2 known) known)) := by
    induction members with
    | nil => exact fun known sorted tidy => .object sorted tidy
    | cons first further ih =>
      intro known sorted tidy
      refine ih (fun member inside => each member (List.mem_cons_of_mem _ inside)) _
        (sorted_insertMember sorted) fun member inside => ?_
      obtain rfl | before := of_mem_insertMember inside
      · exact each first List.mem_cons_self
      · exact tidy member before
  exact fold [] List.Pairwise.nil (by simp)

end Value

/-- Members with commas between them and braces around them are an object. -/
theorem isObjectText_joinWith {text : String} {members : List Member}
    (written : text.toList =
      '\x7b' :: (Text.joinWith ',' (members.map Member.characters) ++ ['\x7d']))
    (each : ∀ member ∈ members, Writes 126 member.part.core member.part.value) :
    IsObjectText text (members.map Member.entry) :=
  ⟨_, members, ⟨[], [], by simp [written], by simp [AreSpaces], by simp [AreSpaces]⟩,
    areSeparated_joinWith _, each, rfl⟩

/-- What is written from tidy members is an object with these members. -/
theorem isObjectText_members {text : String} {members : List (String × Value)}
    (written : text.toList = '\x7b' :: (Value.memberCharacters members ++ ['\x7d']))
    (each : ∀ member ∈ members, member.2.IsTidy 126) : IsObjectText text members := by
  rw [Value.memberCharacters_eq] at written
  have object := isObjectText_joinWith written
    (List.forall_mem_map.mpr fun member inside => (each member inside).writes)
  rwa [Value.map_entry_tight] at object

/-- The text of an object of tidy values says the object of these values. -/
theorem parse_members {members : List (String × Value)}
    (each : ∀ member ∈ members, member.2.IsTidy 126) :
    parse (String.ofList ('\x7b' :: (Value.memberCharacters members ++ ['\x7d']))) =
      .ok (.ofMembers members) :=
  parse_eq_ok_iff.mpr (isText_object.mpr
    ⟨members, isObjectText_members String.toList_ofList each, rfl⟩)

section Controls

/-- Whether none of some characters is a control below the space. -/
def HasNoControls (characters : List Char) : Prop :=
  ∀ character ∈ characters, 0x20 ≤ character.toNat

/-- Characters without controls one after the other have none. -/
@[simp] theorem hasNoControls_append {first second : List Char} :
    HasNoControls (first ++ second) ↔ HasNoControls first ∧ HasNoControls second := by
  simp only [HasNoControls, List.mem_append, or_imp, forall_and]

/-- A character that is no control before characters without controls. -/
@[simp] theorem hasNoControls_cons {first : Char} {further : List Char} :
    HasNoControls (first :: further) ↔ 0x20 ≤ first.toNat ∧ HasNoControls further := by
  simp only [HasNoControls, List.mem_cons, forall_eq_or_imp]

/-- No characters hold no controls. -/
@[simp] theorem hasNoControls_nil : HasNoControls [] := by
  simp [HasNoControls]

/-- Digits are no controls. -/
theorem hasNoControls_toDigits (number : Nat) : HasNoControls (Nat.toDigits 10 number) := by
  intro digit member
  have known : '0' ≤ digit := by
    have both := isDigit_of_mem_toDigits member
    simp only [isDigit, Bool.and_eq_true, decide_eq_true_eq] at both
    exact both.1
  have code : 48 ≤ digit.toNat := known
  omega

/-- A part of characters without controls has none. -/
theorem HasNoControls.of_subset {part whole : List Char} (visible : HasNoControls whole)
    (inside : part ⊆ whole) : HasNoControls part :=
  fun character member => visible character (inside member)

/-- The form of a string has no controls. -/
theorem hasNoControls_stringCharacters (text : String) : HasNoControls (stringCharacters text) := by
  have each : ∀ character, HasNoControls (escapeCharacter character) := by
    intro character
    unfold escapeCharacter
    split
    case h_8 =>
      split
      · have digits : ∀ digit < 16, 0x20 ≤ (Nat.digitChar digit).toNat := by decide
        simp [digits (character.toNat / 16) (by omega), digits (character.toNat % 16) (by omega)]
      · rename_i plain
        simpa using plain
    all_goals simp
  have escaped : HasNoControls (text.toList.flatMap escapeCharacter) := by
    intro character member
    obtain ⟨source, _, inside⟩ := List.mem_flatMap.mp member
    exact each source character inside
  simp [stringCharacters, escaped]

/-- The text of a number with a point or an exponent has no controls. -/
theorem hasNoControls_double (double : Double) : HasNoControls double.text.toList := by
  have digits := hasNoControls_toDigits double.shortest.1
  have zeros (count : Nat) : HasNoControls (List.replicate count '0') := by
    intro character member
    rw [List.eq_of_mem_replicate member]
    decide
  have sign : HasNoControls (if double.isNegative then "-" else "").toList := by
    split <;> simp
  unfold Double.text
  dsimp only
  generalize double.shortest = decimal at digits
  generalize (if double.isNegative then "-" else "") = front at sign
  split
  · simp [sign]
  · generalize Nat.toDigits 10 decimal.1 = shown at digits
    rw [String.toList_append, hasNoControls_append, String.toList_ofList]
    refine ⟨sign, ?_⟩
    split
    · simp [digits, zeros]
    · split
      · simp [digits.of_subset (List.take_subset _ _), digits.of_subset (List.drop_subset _ _)]
      · split
        · simp [digits, zeros]
        · rw [hasNoControls_append, hasNoControls_cons, hasNoControls_cons]
          refine ⟨?_, by decide, ?_, hasNoControls_toDigits _⟩
          · cases shown with
            | nil => simp
            | cons first further =>
              cases further <;> simpa using digits
          · split <;> decide

mutual

/-- A value is written without controls. -/
theorem hasNoControls_characters : ∀ value : Value, HasNoControls value.characters
  | .null => by simp [Value.characters]
  | .boolean true => by simp [Value.characters]
  | .boolean false => by simp [Value.characters]
  | .number (.integer value _) => by
    rw [Value.characters, Number.characters, toList_toString, hasNoControls_append]
    refine ⟨?_, hasNoControls_toDigits _⟩
    split <;> simp
  | .number (.double value) => hasNoControls_double value
  | .string value => hasNoControls_stringCharacters value
  | .array elements => by
    simp [Value.characters, hasNoControls_elements elements]
  | .object members => by
    simp [Value.characters, hasNoControls_members members]

/-- The elements of an array are written without controls. -/
theorem hasNoControls_elements : ∀ elements : List Value,
    HasNoControls (Value.elementCharacters elements)
  | [] => by simp [Value.elementCharacters]
  | [only] => hasNoControls_characters only
  | first :: second :: further => by
    simp [Value.elementCharacters, hasNoControls_characters first,
      hasNoControls_elements (second :: further)]

/-- The members of an object are written without controls. -/
theorem hasNoControls_members : ∀ members : List (String × Value),
    HasNoControls (Value.memberCharacters members)
  | [] => by simp [Value.memberCharacters]
  | [(key, only)] => by
    simp [Value.memberCharacters, hasNoControls_stringCharacters key, hasNoControls_characters only]
  | (key, first) :: second :: further => by
    simp [Value.memberCharacters, hasNoControls_stringCharacters key,
      hasNoControls_characters first, hasNoControls_members (second :: further)]

end

end Controls

end DecompileServer.Json

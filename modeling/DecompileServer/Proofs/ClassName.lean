import DecompileServer.ClassName
import DecompileServer.Proofs.Path
import DecompileServer.Proofs.Text.Blank

/-!
# Segments of class names

A text is the name of a class exactly if each of its pieces between slashes is a segment
(`isClassName_iff`). A name is put together again from its segments (`ofSegments_segments`) and read
back from its form with dots (`ofDotted_dotted`), and the path of its class file leads through its
packages and on to the file (`steps_filePath`), so that different names have different paths, and
none leads through the file of another.
-/
namespace DecompileServer

variable {characters : List Char}

/-- Whether a text can be a segment of the name of a class. -/
def IsSegment (segment : String) : Prop :=
  segment ≠ "" ∧ ∀ character ∈ segment.toList, isSegmentCharacter character = true

/-- The segment characters are the letters and digits of ASCII, the underscore and the dollar sign.
-/
theorem isSegmentCharacter_iff {character : Char} : isSegmentCharacter character = true ↔
    character.isAlphanum = true ∨ character = '_' ∨ character = '$' := by
  have spelled : character.isAlphanum =
      ((decide (character.val ≥ 'A'.val ∧ character.val ≤ 'Z'.val) ||
        decide (character.val ≥ 'a'.val) && decide (character.val ≤ 'z'.val)) ||
        decide (character.val ≥ '0'.val) && decide (character.val ≤ '9'.val)) := rfl
  rw [spelled]
  simp only [isSegmentCharacter, Char.le_def, Bool.or_eq_true, Bool.and_eq_true, decide_eq_true_eq,
    beq_iff_eq, ge_iff_le, or_assoc]

/-- No slash is a segment character. -/
theorem ne_slash_of_isSegmentCharacter {character : Char}
    (valid : isSegmentCharacter character = true) : character ≠ '/' := by
  rintro rfl
  exact absurd valid (by decide)

/-- No dot is a segment character. -/
theorem ne_dot_of_isSegmentCharacter {character : Char}
    (valid : isSegmentCharacter character = true) : character ≠ '.' := by
  rintro rfl
  exact absurd valid (by decide)

/-- No segment character is white space. -/
theorem isBlank_of_isSegmentCharacter {character : Char}
    (valid : isSegmentCharacter character = true) : Text.isBlank character = false := by
  simp only [isSegmentCharacter, Char.le_def, Bool.or_eq_true, Bool.and_eq_true,
    decide_eq_true_eq, beq_iff_eq, UInt32.le_iff_toNat_le] at valid
  have range : 36 ≤ character.toNat ∧ character.toNat ≤ 122 := by
    rcases valid with (((⟨low, high⟩ | ⟨low, high⟩) | ⟨low, high⟩) | rfl) | rfl
    · change 65 ≤ character.toNat at low
      change character.toNat ≤ 90 at high
      omega
    · change 97 ≤ character.toNat at low
      change character.toNat ≤ 122 at high
      omega
    · change 48 ≤ character.toNat at low
      change character.toNat ≤ 57 at high
      omega
    · decide
    · decide
  simp [Text.isBlank]
  omega

/-- The first piece is empty exactly if the text is or begins with a slash. -/
theorem splitAt_slash_head (characters : List Char) :
    (Text.splitAt '/' characters).head? = some [] ↔
      characters = [] ∨ characters.head? = some '/' := by
  rw [Text.head?_splitAt]
  cases characters with
  | nil => simp
  | cons first rest =>
    by_cases slash : first = '/' <;> simp [slash]

/-- The pieces after the first slash are not empty exactly if no slash stands at the end or beside
another. -/
theorem splitAt_slash_tail (characters : List Char) :
    [] ∉ (Text.splitAt '/' characters).tail ↔
      hasEmptySegment characters = false ∧ characters.getLast? ≠ some '/' := by
  induction characters with
  | nil => simp [Text.splitAt, hasEmptySegment]
  | cons first rest ih =>
    by_cases slash : first = '/'
    · subst slash
      have head := splitAt_slash_head rest
      rw [Text.splitAt, if_pos rfl, List.tail_cons]
      cases cut : Text.splitAt '/' rest with
      | nil => exact absurd cut (Text.splitAt_ne_nil rest)
      | cons piece pieces =>
        rw [cut] at head ih
        simp only [List.head?_cons, Option.some.injEq, List.tail_cons] at head ih
        rw [List.mem_cons, not_or, ih, @eq_comm _ [] piece, head]
        cases rest with
        | nil => simp [hasEmptySegment]
        | cons second rest =>
          by_cases slash : second = '/'
          · simp [slash, hasEmptySegment]
          · have same : hasEmptySegment ('/' :: second :: rest) =
                hasEmptySegment (second :: rest) := by
              simp [hasEmptySegment, slash]
            simp [slash, same]
    · obtain ⟨piece, pieces, cut, joined⟩ := Text.splitAt_cons_of_ne slash rest
      rw [cut] at ih
      rw [joined, List.tail_cons]
      rw [List.tail_cons] at ih
      rw [ih]
      have same : hasEmptySegment (first :: rest) = hasEmptySegment rest := by
        simp [hasEmptySegment, slash]
      rw [same]
      cases rest with
      | nil => simp [slash]
      | cons => simp

/-- A text is the name of a class exactly if its pieces between slashes are segments. -/
theorem isClassName_iff : isClassName characters = true ↔
    ∀ piece ∈ Text.splitAt '/' characters, IsSegment (String.ofList piece) := by
  have head := splitAt_slash_head characters
  have tail := splitAt_slash_tail characters
  have full : [] ∉ Text.splitAt '/' characters ↔
      ¬(characters = [] ∨ characters.head? = some '/') ∧
        (hasEmptySegment characters = false ∧ characters.getLast? ≠ some '/') := by
    rw [← head, ← tail]
    cases Text.splitAt '/' characters with
    | nil => simp
    | cons piece pieces => simp [@eq_comm _ [] piece]
  have written : isClassName characters = true ↔ [] ∉ Text.splitAt '/' characters ∧
      ∀ character ∈ characters, isSegmentCharacter character = true ∨ character = '/' := by
    rw [full]
    simp only [isClassName, Bool.and_eq_true, Bool.not_eq_true', List.isEmpty_eq_false_iff,
      List.all_eq_true, Bool.or_eq_true, beq_iff_eq, bne_iff_ne, not_or]
    constructor
    · rintro ⟨⟨⟨⟨filled, valid⟩, first⟩, last⟩, single⟩
      exact ⟨⟨⟨filled, first⟩, single, last⟩, valid⟩
    · rintro ⟨⟨⟨filled, first⟩, single, last⟩, valid⟩
      exact ⟨⟨⟨⟨filled, valid⟩, first⟩, last⟩, single⟩
  rw [written]
  constructor
  · rintro ⟨filled, valid⟩ piece member
    refine ⟨?_, ?_⟩
    · intro empty
      have none : piece = [] := by
        rw [← String.toList_ofList (l := piece), empty]
        rfl
      exact filled (none ▸ member)
    · intro character inside
      rw [String.toList_ofList] at inside
      rcases valid character (Text.mem_of_mem_splitAt member inside) with valid | rfl
      · exact valid
      · exact absurd inside (Text.notMem_of_mem_splitAt member)
  · intro segments
    refine ⟨fun member => (segments [] member).1 rfl, fun character inside => ?_⟩
    by_cases slash : character = '/'
    · exact .inr slash
    · obtain ⟨piece, member, within⟩ := Text.exists_mem_splitAt inside slash
      exact .inl ((segments piece member).2 character (by rwa [String.toList_ofList]))

/-- A segment holds no dot. -/
theorem IsSegment.dot_notMem {segment : String} (valid : IsSegment segment) :
    '.' ∉ segment.toList :=
  fun inside => ne_dot_of_isSegmentCharacter (valid.2 _ inside) rfl

/-- A segment is a step of a path that does not lead upwards. -/
theorem IsSegment.isStep {segment : String} (valid : IsSegment segment) :
    Path.IsStep segment ∧ segment ≠ ".." := by
  refine ⟨⟨valid.1, ?_, fun inside => ne_slash_of_isSegmentCharacter (valid.2 _ inside) rfl⟩, ?_⟩
  · rintro rfl
    exact valid.dot_notMem (by decide)
  · rintro rfl
    exact valid.dot_notMem (by decide)

/-- A text is the name of a class exactly if it is segments with single slashes between them. -/
theorem isClassName_iff_exists {text : String} : isClassName text.toList = true ↔
    ∃ segments : List String, segments ≠ [] ∧ (∀ segment ∈ segments, IsSegment segment) ∧
      text = "/".intercalate segments := by
  rw [isClassName_iff]
  constructor
  · intro each
    refine ⟨(Text.splitAt '/' text.toList).map String.ofList, ?_, by simpa using each, ?_⟩
    · simp [Text.splitAt_ne_nil]
    · have same : String.toList ∘ String.ofList = id := funext fun _ => String.toList_ofList
      rw [← String.toList_inj, Text.toList_intercalate, List.map_map, same, List.map_id,
        Text.joinWith_splitAt]
  · rintro ⟨segments, some, each, rfl⟩ piece member
    have free : ∀ characters ∈ segments.map String.toList, '/' ∉ characters := by
      intro characters inside
      obtain ⟨segment, found, rfl⟩ := List.mem_map.mp inside
      exact (each segment found).isStep.1.2.2
    rw [Text.toList_intercalate, Text.splitAt_joinWith (by simpa using some) free] at member
    obtain ⟨segment, found, rfl⟩ := List.mem_map.mp member
    rw [String.ofList_toList]
    exact each segment found

namespace ClassName

variable {name other : ClassName} {text : String}

/-- The text of a name is read as the name. -/
theorem ofText_text (name : ClassName) : ofText name.text = .ok name := by
  rw [ofText, dif_pos name.wellFormed]

/-- A text that is read as a name is the name. -/
theorem text_of_ofText (found : ofText text = .ok name) : name.text = text := by
  unfold ofText at found
  split at found
  · obtain rfl := Except.ok.inj found
    rfl
  · cases found

/-- A text is read as a name exactly if it is the name. -/
theorem ofText_eq_ok_iff : ofText text = .ok name ↔ text = name.text :=
  ⟨fun found => (text_of_ofText found).symm, fun same => same ▸ name.ofText_text⟩

/-- A text is read as some name exactly if it is one. -/
theorem exists_ofText_eq_ok : (∃ name, ofText text = .ok name) ↔ isClassName text.toList = true := by
  constructor
  · rintro ⟨name, found⟩
    rw [ofText_eq_ok_iff.mp found]
    exact name.wellFormed
  · intro wellFormed
    exact ⟨⟨text, wellFormed⟩, ofText_eq_ok_iff.mpr rfl⟩

/-- Every segment of a name is one. -/
theorem isSegment_of_mem_segments {segment : String} (member : segment ∈ name.segments) :
    IsSegment segment := by
  obtain ⟨piece, inside, rfl⟩ := List.mem_map.mp member
  exact isClassName_iff.mp name.wellFormed piece inside

/-- The segments of a name before the last. -/
def packages (name : ClassName) : List String :=
  name.segments.dropLast

/-- The segments of a name are its packages and its simple name. -/
theorem segments_eq (name : ClassName) : name.segments = name.packages ++ [name.simpleName] := by
  have filled : name.segments ≠ [] := by
    simpa [segments] using Text.splitAt_ne_nil name.text.toList
  have last := List.getLast?_eq_some_getLast filled
  rw [simpleName, List.getLastD_eq_getLast?, last, Option.getD_some]
  exact (List.dropLast_concat_getLast filled).symm

/-- The packages of a name are segments. -/
theorem isSegment_of_mem_packages {segment : String} (member : segment ∈ name.packages) :
    IsSegment segment := by
  have inside : segment ∈ name.segments := by
    rw [segments_eq]
    exact List.mem_append_left _ member
  exact isSegment_of_mem_segments inside

/-- The simple name is a segment. -/
theorem isSegment_simpleName (name : ClassName) : IsSegment name.simpleName := by
  have inside : name.simpleName ∈ name.segments := by
    rw [segments_eq]
    exact List.mem_append_right _ List.mem_cons_self
  exact isSegment_of_mem_segments inside

/-- The characters of a name are those of its segments with slashes between them. -/
theorem text_eq (name : ClassName) : name.text.toList =
    name.packages.flatMap (fun segment => segment.toList ++ ['/']) ++ name.simpleName.toList := by
  have pieces : Text.splitAt '/' name.text.toList = name.segments.map String.toList := by
    simp [segments, Function.comp_def]
  have joined : Text.joinWith '/' (Text.splitAt '/' name.text.toList) = name.text.toList :=
    Text.joinWith_splitAt _
  rw [← joined, pieces, segments_eq, List.map_append, List.map_singleton, Text.joinWith_concat,
    List.flatMap_map]

/-- A name is its packages and its simple name with slashes between them. -/
theorem text_eq_intercalate (name : ClassName) :
    name.text = "/".intercalate (name.packages ++ [name.simpleName]) := by
  rw [← String.toList_inj, Text.toList_intercalate, text_eq, List.map_append, List.map_singleton,
    Text.joinWith_concat, List.flatMap_map]

/-- A name is put together again from its segments. -/
theorem ofSegments_segments (name : ClassName) :
    ofSegments name.packages name.simpleName = .ok name := by
  rw [ofSegments, ← text_eq, String.ofList_toList, ofText_text]

/-- Package segments and a simple name without slashes make up the name that joins them, if the simple
name is a segment, and none otherwise. -/
theorem ofSegments_eq_ok_iff {package : List String} {simple : String}
    (segments : ∀ segment ∈ package, IsSegment segment) (free : '/' ∉ simple.toList) :
    ofSegments package simple = .ok name ↔
      IsSegment simple ∧ name.text = "/".intercalate (package ++ [simple]) := by
  have joined : String.ofList (package.flatMap (fun segment => segment.toList ++ ['/']) ++
      simple.toList) = "/".intercalate (package ++ [simple]) := by
    rw [← String.toList_inj, String.toList_ofList, Text.toList_intercalate, List.map_append,
      List.map_singleton, Text.joinWith_concat, List.flatMap_map]
  rw [ofSegments, joined, ofText_eq_ok_iff]
  refine ⟨fun same => ⟨?_, same.symm⟩, fun whole => whole.2.symm⟩
  have wellFormed := isClassName_iff.mp name.wellFormed simple.toList
  rw [← same, Text.toList_intercalate, Text.splitAt_joinWith (by simp), String.ofList_toList]
    at wellFormed
  · exact wellFormed (by simp)
  · intro characters member
    obtain ⟨segment, inside, rfl⟩ := List.mem_map.mp member
    obtain inside | last := List.mem_append.mp inside
    · exact (segments segment inside).isStep.1.2.2
    · rwa [List.mem_singleton.mp last]

/-- Package segments and a simple name that is a segment make up a name. -/
theorem exists_ofSegments_eq_ok {package : List String} {simple : String}
    (segments : ∀ segment ∈ package, IsSegment segment) (valid : IsSegment simple) :
    ∃ name, ofSegments package simple = .ok name := by
  have wellFormed : isClassName ("/".intercalate (package ++ [simple])).toList = true :=
    isClassName_iff_exists.mpr
      ⟨package ++ [simple], by simp, by simpa [or_imp, forall_and] using ⟨segments, valid⟩, rfl⟩
  exact ⟨⟨_, wellFormed⟩, (ofSegments_eq_ok_iff segments valid.isStep.1.2.2).mpr ⟨valid, rfl⟩⟩

/-- The characters of a name. -/
theorem valid_of_mem_text {character : Char} (inside : character ∈ name.text.toList) :
    isSegmentCharacter character = true ∨ character = '/' := by
  by_cases slash : character = '/'
  · exact .inr slash
  · obtain ⟨piece, member, within⟩ := Text.exists_mem_splitAt inside slash
    have segment := isClassName_iff.mp name.wellFormed piece member
    exact .inl (segment.2 character (by rwa [String.toList_ofList]))

/-- No character of a name written with dots is white space. -/
theorem trim_dotted (name : ClassName) : Text.trim name.dotted = name.dotted := by
  refine Text.trim_of_notBlank fun character inside => ?_
  rw [dotted, String.toList_ofList] at inside
  obtain ⟨written, member, rfl⟩ := List.mem_map.mp inside
  split
  · decide
  · rename_i notSlash
    obtain valid | slash := valid_of_mem_text member
    · exact isBlank_of_isSegmentCharacter valid
    · exact absurd slash notSlash

/-- Slashes in the place of the dots give the name again. -/
theorem slashed_dotted (name : ClassName) : slashed name.dotted = name.text := by
  rw [slashed, dotted, String.toList_ofList, List.map_map]
  have same : ∀ character ∈ name.text.toList, ((fun character => if character = '.' then '/' else
      character) ∘ fun character => if character = '/' then '.' else character) character =
      character := by
    intro character member
    dsimp only [Function.comp_apply]
    obtain valid | rfl := valid_of_mem_text member
    · rw [if_neg (ne_slash_of_isSegmentCharacter valid),
        if_neg (ne_dot_of_isSegmentCharacter valid)]
    · rfl
  rw [(List.map_congr_left same).trans (List.map_id' _), String.ofList_toList]

/-- A name is read back from its form with dots. -/
theorem ofDotted_dotted (name : ClassName) : ofDotted name.dotted = .ok name := by
  rw [ofDotted, trim_dotted, slashed_dotted, ofText_text]

/-- Characters that make up a name, with a slash for each dot, are some, and none is white space. -/
theorem notBlank_of_slashed {written : List Char}
    (same : written.map (fun character => if character = '.' then '/' else character) =
      name.text.toList) :
    written ≠ [] ∧ ∀ character ∈ written, Text.isBlank character = false := by
  refine ⟨?_, fun character member => ?_⟩
  · rintro rfl
    have wellFormed := name.wellFormed
    rw [← same] at wellFormed
    cases wellFormed
  · have inside : (if character = '.' then '/' else character) ∈ name.text.toList := by
      rw [← same]
      exact List.mem_map_of_mem member
    by_cases dot : character = '.'
    · rw [dot]
      decide
    · rw [if_neg dot] at inside
      obtain valid | rfl := valid_of_mem_text inside
      · exact isBlank_of_isSegmentCharacter valid
      · decide

/-- A text with dots is read as a name exactly if that is what it is without the white space around,
with a slash for each dot. -/
theorem ofDotted_eq_ok_iff_trim : ofDotted text = .ok name ↔ (Text.trimBlank text.toList).map
    (fun character => if character = '.' then '/' else character) = name.text.toList := by
  rw [ofDotted, ofText_eq_ok_iff, slashed, Text.trim, String.toList_ofList, ← String.toList_inj,
    String.toList_ofList]

/-- A text with dots is read as a name exactly if, with a slash for each dot and without the white
space around, it is the name. -/
theorem ofDotted_eq_ok_iff : ofDotted text = .ok name ↔ ∃ before written after,
    text.toList = before ++ written ++ after ∧
      (∀ character ∈ before ++ after, Text.isBlank character = true) ∧
      written.map (fun character => if character = '.' then '/' else character) =
        name.text.toList := by
  rw [ofDotted_eq_ok_iff_trim]
  constructor
  · intro same
    obtain ⟨before, after, whole, blank⟩ := Text.exists_blank_ends text.toList
    exact ⟨before, _, after, whole, blank, same⟩
  · rintro ⟨before, written, after, whole, blank, same⟩
    obtain ⟨filled, shown⟩ := notBlank_of_slashed same
    rw [whole, Text.trimBlank_append blank filled shown, same]

/-- What is left of a text with dots without the white space around it is read as the same name. -/
theorem ofDotted_trim (read : ofDotted text = .ok name) :
    ofDotted (Text.trim text) = .ok name ∧ Text.trim text ≠ "" := by
  have same := ofDotted_eq_ok_iff_trim.mp read
  obtain ⟨filled, shown⟩ := notBlank_of_slashed same
  refine ⟨ofDotted_eq_ok_iff_trim.mpr ?_, ?_⟩
  · rw [Text.trim, String.toList_ofList, Text.trimBlank_of_notBlank shown, same]
  · rw [Text.trim, ne_eq, ← String.toList_inj, String.toList_ofList]
    exact filled

/-- White space around a text with dots does not matter. -/
theorem ofDotted_of_trim (found : ofDotted (Text.trim text) = .ok name) :
    ofDotted text = .ok name := by
  obtain ⟨before, written, after, inner, innerBlank, same⟩ := ofDotted_eq_ok_iff.mp found
  obtain ⟨first, last, whole, outerBlank⟩ := Text.exists_blank_ends text.toList
  rw [Text.trim, String.toList_ofList] at inner
  refine ofDotted_eq_ok_iff.mpr ⟨first ++ before, written, after ++ last, ?_, ?_, same⟩
  · rw [whole, inner]
    simp only [List.append_assoc]
  · intro character member
    simp only [List.mem_append] at member innerBlank outerBlank
    obtain (outer | inner) | (inner | outer) := member
    · exact outerBlank character (.inl outer)
    · exact innerBlank character (.inl inner)
    · exact innerBlank character (.inr inner)
    · exact outerBlank character (.inr outer)

/-- A name is determined by its text. -/
theorem eq_of_text (same : name.text = other.text) : name = other := by
  cases name
  cases other
  simpa only [mk.injEq] using same

/-- A name does not begin with a slash, so the path of its class file is relative. -/
theorem isAbsolute_filePath (name : ClassName) : (Path.mk name.filePath).isAbsolute = false := by
  have wellFormed := name.wellFormed
  simp only [isClassName, Bool.and_eq_true, bne_iff_ne] at wellFormed
  cases written : name.text.toList with
  | nil => simp [written] at wellFormed
  | cons first rest =>
    simp only [written, List.head?_cons] at wellFormed
    simpa [Path.isAbsolute, filePath, written] using wellFormed.1.1.2

/-- The name of a class file is none of the names that hold no letter. -/
theorem ne_dots_of_class (simple : String) {dots : String} (free : 'c' ∉ dots.toList) :
    simple ++ ".class" ≠ dots := by
  rintro rfl
  apply free
  rw [String.toList_append]
  exact List.mem_append_right _ (by decide)

/-- The pieces of the path of a class file are the packages and the file. -/
theorem pieces_filePath (name : ClassName) :
    (Path.mk name.filePath).pieces = name.packages ++ [name.simpleName ++ ".class"] := by
  have free : '/' ∉ ".class".toList := by decide
  obtain ⟨front, last, cut, joined⟩ := Text.splitAt_append name.text.toList free
  have segments : name.segments = front.map String.ofList ++ [String.ofList last] := by
    rw [ClassName.segments, cut, List.map_append, List.map_singleton]
  have filled : [] ∉ front ++ [last ++ ".class".toList] := by
    rw [List.mem_append, not_or]
    refine ⟨fun member => ?_, by simp⟩
    have piece : [] ∈ Text.splitAt '/' name.text.toList := by simp [cut, member]
    exact (isClassName_iff.mp name.wellFormed _ piece).1 rfl
  rw [segments_eq] at segments
  obtain ⟨packages, simple⟩ := List.append_inj' segments rfl
  rw [Path.pieces, filePath, String.toList_append, joined, List.filter_eq_self.mpr, packages,
    List.singleton_inj.mp simple, List.map_append]
  · simp
  · intro piece member
    have some : piece ≠ [] := by
      rintro rfl
      exact filled member
    simpa using some

/-- The path of a class file leads through the packages to the file. -/
theorem steps_filePath (name : ClassName) :
    (Path.mk name.filePath).steps = name.packages ++ [name.simpleName ++ ".class"] := by
  rw [Path.steps, pieces_filePath]
  refine List.filter_eq_self.mpr fun step member => ?_
  rcases List.mem_append.mp member with package | file
  · simpa using (isSegment_of_mem_packages package).isStep.1.2.1
  · rw [List.mem_singleton.mp file]
    simpa using ne_dots_of_class name.simpleName (by decide)

/-- The path of a class file is its steps with slashes between them. -/
theorem toList_filePath (name : ClassName) : name.filePath.toList =
    Text.joinWith '/' ((Path.mk name.filePath).steps.map String.toList) := by
  rw [steps_filePath, List.map_append, List.map_singleton, Text.joinWith_concat, filePath,
    String.toList_append, text_eq, String.toList_append, List.flatMap_map, List.append_assoc]

/-- The path of a class file never leads upwards. -/
theorem notUp_of_mem_steps {step : String} (member : step ∈ (Path.mk name.filePath).steps) :
    step ≠ ".." := by
  rw [steps_filePath] at member
  rcases List.mem_append.mp member with package | file
  · exact (isSegment_of_mem_packages package).isStep.2
  · rw [List.mem_singleton.mp file]
    exact ne_dots_of_class name.simpleName (by decide)

/-- Every step of the path of a class file leads down. -/
theorem moves_of_mem_steps (name : ClassName) :
    ∀ step ∈ (Path.mk name.filePath).steps, step ≠ "." ∧ step ≠ ".." :=
  fun _ member => ⟨(Path.isStep_of_mem_steps member).2.1, notUp_of_mem_steps member⟩

/-- Different names have class files with different paths. -/
theorem eq_of_steps_filePath
    (same : (Path.mk name.filePath).steps = (Path.mk other.filePath).steps) : name = other := by
  rw [steps_filePath, steps_filePath] at same
  obtain ⟨packages, files⟩ := List.append_inj' same rfl
  have simple : name.simpleName.toList = other.simpleName.toList := by
    have file := congrArg String.toList (List.singleton_inj.mp files)
    rw [String.toList_append, String.toList_append] at file
    exact List.append_cancel_right file
  have text : name.text.toList = other.text.toList := by
    rw [text_eq, text_eq, packages, simple]
  exact eq_of_text (String.toList_inj.mp text)

end ClassName

end DecompileServer

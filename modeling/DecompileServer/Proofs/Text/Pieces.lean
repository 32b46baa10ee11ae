import DecompileServer.Text.Pieces

/-!
# Cutting and joining

Cutting a text at a separator and joining the pieces with it are inverse: the pieces of a text join
to it again (`joinWith_splitAt`), and pieces without the separator are what their join is cut into
(`splitAt_joinWith`). A cut at one separator is the cut before it followed by the cut after it.
-/
namespace DecompileServer.Text

variable {separator : Char}

/-- Every text has a piece. -/
theorem splitAt_ne_nil (characters : List Char) : splitAt separator characters ≠ [] := by
  cases characters with
  | nil => simp [splitAt]
  | cons character rest =>
    rw [splitAt]
    split
    · simp
    · split <;> simp

/-- A character other than the separator joins the first piece. -/
theorem splitAt_cons_of_ne {character : Char} (differs : character ≠ separator)
    (rest : List Char) :
    ∃ piece pieces, splitAt separator rest = piece :: pieces ∧
      splitAt separator (character :: rest) = (character :: piece) :: pieces := by
  rw [splitAt, if_neg differs]
  cases cut : splitAt separator rest with
  | nil => exact absurd cut (splitAt_ne_nil rest)
  | cons piece pieces => exact ⟨piece, pieces, rfl, rfl⟩

/-- A text is cut at a separator into the pieces before and the pieces after it. -/
theorem splitAt_append_cons (before after : List Char) :
    splitAt separator (before ++ separator :: after) =
      splitAt separator before ++ splitAt separator after := by
  induction before with
  | nil => simp [splitAt]
  | cons character rest ih =>
    by_cases ends : character = separator
    · simp only [List.cons_append, splitAt, if_pos ends, ih]
    · obtain ⟨piece, pieces, cut, joined⟩ := splitAt_cons_of_ne ends rest
      rw [List.cons_append, splitAt, if_neg ends, ih, joined, cut]
      rfl

/-- A text without the separator is one piece. -/
theorem splitAt_of_notMem {characters : List Char} (free : separator ∉ characters) :
    splitAt separator characters = [characters] := by
  induction characters with
  | nil => rfl
  | cons character rest ih =>
    rw [List.mem_cons, not_or] at free
    rw [splitAt, if_neg (Ne.symm free.1), ih free.2]

/-- No piece holds the separator. -/
theorem notMem_of_mem_splitAt {characters piece : List Char}
    (member : piece ∈ splitAt separator characters) : separator ∉ piece := by
  induction characters generalizing piece with
  | nil =>
    rw [splitAt, List.mem_singleton] at member
    simp [member]
  | cons character rest ih =>
    by_cases ends : character = separator
    · rw [splitAt, if_pos ends, List.mem_cons] at member
      rcases member with rfl | later
      · simp
      · exact ih later
    · obtain ⟨first, pieces, cut, joined⟩ := splitAt_cons_of_ne ends rest
      rw [joined, List.mem_cons] at member
      rw [cut] at ih
      rcases member with rfl | later
      · simp only [List.mem_cons, not_or]
        exact ⟨Ne.symm ends, ih List.mem_cons_self⟩
      · exact ih (List.mem_cons_of_mem _ later)

/-- Every character of a piece is one of the text. -/
theorem mem_of_mem_splitAt {characters piece : List Char} {character : Char}
    (member : piece ∈ splitAt separator characters) (inside : character ∈ piece) :
    character ∈ characters := by
  induction characters generalizing piece with
  | nil =>
    rw [splitAt, List.mem_singleton] at member
    simp [member] at inside
  | cons first rest ih =>
    by_cases ends : first = separator
    · rw [splitAt, if_pos ends, List.mem_cons] at member
      rcases member with rfl | later
      · cases inside
      · exact List.mem_cons_of_mem _ (ih later inside)
    · obtain ⟨piece, pieces, cut, joined⟩ := splitAt_cons_of_ne ends rest
      rw [joined, List.mem_cons] at member
      rw [cut] at ih
      rcases member with rfl | later
      · rcases List.mem_cons.mp inside with rfl | within
        · exact List.mem_cons_self
        · exact List.mem_cons_of_mem _ (ih List.mem_cons_self within)
      · exact List.mem_cons_of_mem _ (ih (List.mem_cons_of_mem _ later) inside)

/-- Every character of a text but the separator is one of a piece. -/
theorem exists_mem_splitAt {characters : List Char} {character : Char}
    (inside : character ∈ characters) (differs : character ≠ separator) :
    ∃ piece ∈ splitAt separator characters, character ∈ piece := by
  induction characters with
  | nil => cases inside
  | cons first rest ih =>
    by_cases ends : first = separator
    · rcases List.mem_cons.mp inside with rfl | later
      · exact absurd ends differs
      · obtain ⟨piece, member, within⟩ := ih later
        exact ⟨piece, by rw [splitAt, if_pos ends]; exact List.mem_cons_of_mem _ member, within⟩
    · obtain ⟨piece, pieces, cut, joined⟩ := splitAt_cons_of_ne ends rest
      rw [joined]
      rcases List.mem_cons.mp inside with rfl | later
      · exact ⟨_, List.mem_cons_self, List.mem_cons_self⟩
      · obtain ⟨other, member, within⟩ := ih later
        rw [cut] at member
        rcases List.mem_cons.mp member with rfl | further
        · exact ⟨_, List.mem_cons_self, List.mem_cons_of_mem _ within⟩
        · exact ⟨other, List.mem_cons_of_mem _ further, within⟩

/-- What holds no separator joins the last piece of the text before it. -/
theorem splitAt_append (before : List Char) {after : List Char} (free : separator ∉ after) :
    ∃ front last, splitAt separator before = front ++ [last] ∧
      splitAt separator (before ++ after) = front ++ [last ++ after] := by
  induction before with
  | nil => exact ⟨[], [], rfl, splitAt_of_notMem free⟩
  | cons character rest ih =>
    obtain ⟨front, last, cut, joined⟩ := ih
    by_cases ends : character = separator
    · refine ⟨[] :: front, last, ?_, ?_⟩
      · rw [splitAt, if_pos ends, cut, List.cons_append]
      · rw [List.cons_append, splitAt, if_pos ends, joined, List.cons_append]
    · rw [List.cons_append, splitAt, if_neg ends, cut, splitAt, if_neg ends, joined]
      cases front with
      | nil => exact ⟨[], character :: last, rfl, rfl⟩
      | cons piece front => exact ⟨(character :: piece) :: front, last, rfl, rfl⟩

/-- The first piece is what comes before the first separator. -/
theorem head?_splitAt (characters : List Char) :
    (splitAt separator characters).head? = some (characters.takeWhile (· ≠ separator)) := by
  induction characters with
  | nil => rfl
  | cons character rest ih =>
    by_cases ends : character = separator
    · simp [splitAt, ends]
    · obtain ⟨piece, pieces, cut, joined⟩ := splitAt_cons_of_ne ends rest
      rw [cut, List.head?_cons, Option.some.injEq] at ih
      rw [joined, List.takeWhile_cons_of_pos (by simpa using ends), ← ih, List.head?_cons]

/-- The last piece of a text is empty exactly if the text is, or ends in the separator. -/
theorem getLast?_splitAt_eq_nil_iff {characters : List Char} :
    (splitAt separator characters).getLast? = some [] ↔
      characters = [] ∨ characters.getLast? = some separator := by
  obtain rfl | ⟨front, last, rfl⟩ := List.eq_nil_or_concat characters
  · simp [splitAt]
  · rw [List.concat_eq_append, List.getLast?_concat, Option.some.injEq,
      or_iff_right (by simp : front ++ [last] ≠ [])]
    by_cases ends : last = separator
    · simp [ends, splitAt_append_cons, splitAt]
    · have free : separator ∉ [last] := by simpa using Ne.symm ends
      obtain ⟨pieces, piece, -, cut⟩ := splitAt_append front free
      simp [cut, ends]

/-- Joining with a further piece in front. -/
theorem joinWith_cons {piece : List Char} {pieces : List (List Char)} (more : pieces ≠ []) :
    joinWith separator (piece :: pieces) = piece ++ separator :: joinWith separator pieces := by
  cases pieces with
  | nil => exact absurd rfl more
  | cons => rfl

/-- Joining puts the separator after each piece but the last. -/
theorem joinWith_concat (front : List (List Char)) (last : List Char) :
    joinWith separator (front ++ [last]) = (front.flatMap (· ++ [separator])) ++ last := by
  induction front with
  | nil => rfl
  | cons piece front ih =>
    rw [List.cons_append, joinWith_cons (by simp), ih, List.flatMap_cons]
    simp

/-- Joining puts a separator before a piece unless it is the first, and after it unless it is the
last. -/
theorem joinWith_append_cons (front : List (List Char)) (piece : List Char)
    (back : List (List Char)) :
    joinWith separator (front ++ piece :: back) =
      joinWith separator (front ++ [[]]) ++ piece ++ joinWith separator ([] :: back) := by
  induction front with
  | nil => cases back <;> simp [joinWith]
  | cons first front ih =>
    have long : joinWith separator (first :: (front ++ piece :: back)) =
        first ++ separator :: joinWith separator (front ++ piece :: back) :=
      joinWith_cons (by simp)
    have short : joinWith separator (first :: (front ++ [[]])) =
        first ++ separator :: joinWith separator (front ++ [[]]) :=
      joinWith_cons (by simp)
    rw [List.cons_append, long, ih, List.cons_append, short]
    simp

/-- Fewer pieces join to fewer characters. -/
theorem joinWith_sublist {pieces others : List (List Char)} (fewer : pieces.Sublist others) :
    (joinWith separator pieces).Sublist (joinWith separator others) := by
  induction fewer with
  | slnil => exact List.Sublist.refl _
  | @cons pieces others piece fewer ih =>
    by_cases none : others = []
    · rw [none] at fewer
      rw [List.sublist_nil.mp fewer]
      exact List.nil_sublist _
    · rw [joinWith_cons none]
      exact ih.trans ((List.sublist_cons_self _ _).trans (List.sublist_append_right _ _))
  | @cons_cons pieces others piece fewer ih =>
    by_cases none : others = []
    · rw [none] at fewer
      have same : pieces = others := (List.sublist_nil.mp fewer).trans none.symm
      subst same
      exact List.Sublist.refl _
    · by_cases last : pieces = []
      · rw [last, joinWith_cons none]
        exact List.sublist_append_left _ _
      · rw [joinWith_cons none, joinWith_cons last]
        exact (ih.cons_cons _).append_left _

/-- Pieces without the separator are what their join is cut into. -/
theorem splitAt_joinWith {pieces : List (List Char)} (some : pieces ≠ [])
    (free : ∀ piece ∈ pieces, separator ∉ piece) :
    splitAt separator (joinWith separator pieces) = pieces := by
  induction pieces with
  | nil => exact absurd rfl some
  | cons piece rest ih =>
    have first := splitAt_of_notMem (free piece List.mem_cons_self)
    by_cases last : rest = []
    · subst last
      exact first
    · rw [joinWith_cons last, splitAt_append_cons, first,
        ih last fun piece member => free piece (List.mem_cons_of_mem _ member)]
      rfl

/-- The pieces of a text join to it again. -/
theorem joinWith_splitAt (characters : List Char) :
    joinWith separator (splitAt separator characters) = characters := by
  induction characters with
  | nil => rfl
  | cons character rest ih =>
    by_cases ends : character = separator
    · rw [splitAt, if_pos ends, joinWith_cons (splitAt_ne_nil rest), ih, ends]
      rfl
    · obtain ⟨piece, pieces, cut, joined⟩ := splitAt_cons_of_ne ends rest
      rw [cut] at ih
      rw [joined]
      cases pieces with
      | nil => rw [← ih]; rfl
      | cons => rw [← ih]; rfl

/-- Joining texts with a character between them. -/
theorem toList_intercalate_singleton (separator : Char) (texts : List String) :
    ((String.singleton separator).intercalate texts).toList =
      joinWith separator (texts.map String.toList) := by
  induction texts with
  | nil => rfl
  | cons first rest ih =>
    cases rest with
    | nil => simp [joinWith]
    | cons second rest =>
      rw [String.intercalate_cons_cons, String.toList_append, String.toList_append, ih]
      simp [joinWith]

/-- Joining texts with a slash between them. -/
theorem toList_intercalate (texts : List String) :
    ("/".intercalate texts).toList = joinWith '/' (texts.map String.toList) :=
  toList_intercalate_singleton '/' texts

/-- The pieces of a text with the separator between them are the text. -/
theorem intercalate_splitAt (separator : Char) (text : String) :
    (String.singleton separator).intercalate
      ((splitAt separator text.toList).map String.ofList) = text := by
  have same : String.toList ∘ String.ofList = id := funext fun _ => String.toList_ofList
  rw [← String.toList_inj, toList_intercalate_singleton, List.map_map, same, List.map_id,
    joinWith_splitAt]

/-- A text begins with another one exactly if it is that one and a rest. -/
theorem startsWith_iff {text beginning : String} :
    startsWith text beginning = true ↔ ∃ rest, text = beginning ++ rest := by
  rw [startsWith, List.isPrefixOf_iff_prefix]
  constructor
  · rintro ⟨rest, whole⟩
    exact ⟨String.ofList rest, String.toList_injective (by simp [whole])⟩
  · rintro ⟨rest, rfl⟩
    simp

end DecompileServer.Text

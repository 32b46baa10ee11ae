import DecompileServer.Text.Blank

/-!
# Trimming

White space is removed at the ends of a text only: a text is what is left of it with white space
around (`exists_blank_ends`), and a text without any is what is left of it with some put around it
(`trimBlank_append`).
-/
namespace DecompileServer.Text

variable {characters : List Char}

/-- A text without white space stays as it is. -/
theorem trimBlank_of_notBlank (each : ∀ character ∈ characters, isBlank character = false) :
    trimBlank characters = characters := by
  have kept : ∀ {others : List Char}, (∀ character ∈ others, isBlank character = false) →
      dropBlank others = others := by
    intro others none
    cases others with
    | nil => rfl
    | cons first rest =>
      rw [dropBlank, List.dropWhile_cons_of_neg]
      simp [none first List.mem_cons_self]
  rw [trimBlank, kept each,
    kept fun character member => each character (List.mem_reverse.mp member),
    List.reverse_reverse]

/-- White space before a text is dropped up to its first character that is none. -/
theorem dropBlank_append {before after : List Char}
    (blank : ∀ character ∈ before, isBlank character = true) (some : characters ≠ [])
    (each : ∀ character ∈ characters, isBlank character = false) :
    dropBlank (before ++ characters ++ after) = characters ++ after := by
  obtain ⟨first, rest, rfl⟩ := List.exists_cons_of_ne_nil some
  have shown := each first List.mem_cons_self
  rw [dropBlank, List.append_assoc, List.dropWhile_append_of_pos blank, List.cons_append,
    List.dropWhile_cons_of_neg (by simp [shown])]

/-- A text without white space is what is left of it with white space around. -/
theorem trimBlank_append {before after : List Char}
    (blank : ∀ character ∈ before ++ after, isBlank character = true) (some : characters ≠ [])
    (each : ∀ character ∈ characters, isBlank character = false) :
    trimBlank (before ++ characters ++ after) = characters := by
  have first : ∀ character ∈ before, isBlank character = true :=
    fun character member => blank character (List.mem_append_left _ member)
  have last : ∀ character ∈ after.reverse, isBlank character = true :=
    fun character member => blank character
      (List.mem_append_right _ (List.mem_reverse.mp member))
  have turned : (characters ++ after).reverse = after.reverse ++ characters.reverse ++ [] := by
    simp
  rw [trimBlank, dropBlank_append first some each, turned,
    dropBlank_append last (by simpa using some)
      fun character member => each character (List.mem_reverse.mp member),
    List.append_nil, List.reverse_reverse]

/-- A text is what is left of it with white space around. -/
theorem exists_blank_ends (characters : List Char) : ∃ before after,
    characters = before ++ trimBlank characters ++ after ∧
      ∀ character ∈ before ++ after, isBlank character = true := by
  have cut : ∀ others : List Char, others.takeWhile isBlank ++ dropBlank others = others :=
    fun others => List.takeWhile_append_dropWhile
  have blank : ∀ others : List Char, ∀ character ∈ others.takeWhile isBlank,
      isBlank character = true :=
    fun others => List.all_eq_true.mp List.all_takeWhile
  refine ⟨characters.takeWhile isBlank, ((dropBlank characters).reverse.takeWhile isBlank).reverse,
    ?_, ?_⟩
  · have back := congrArg List.reverse (cut (dropBlank characters).reverse)
    rw [List.reverse_append, List.reverse_reverse] at back
    rw [trimBlank, List.append_assoc, back, cut]
  · intro character member
    rcases List.mem_append.mp member with first | last
    · exact blank _ character first
    · exact blank _ character (List.mem_reverse.mp last)

/-- A text without white space stays as it is. -/
theorem trim_of_notBlank {text : String}
    (each : ∀ character ∈ text.toList, isBlank character = false) : trim text = text := by
  rw [trim, trimBlank_of_notBlank each, String.ofList_toList]

end DecompileServer.Text

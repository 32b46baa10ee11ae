import DecompileServer.Proofs.Effect
import DecompileServer.Proofs.Json.Numbers
import DecompileServer.Proofs.Json.Strings

/-!
# Tokens in a text

A text without a fault is its tokens in their order, each in one of its forms and with white space
before it (`cut_of_lexFrom`). A form is taken as its token where a value may end
(`Token.Spells.lexFrom_append`); without that a number could go on.
-/
namespace DecompileServer.Json

/-- Whether characters are a form of a token. -/
def Token.Spells (core : List Char) : Token → Prop
  | .openArray => core = ['[']
  | .closeArray => core = [']']
  | .openObject => core = ['\x7b']
  | .closeObject => core = ['\x7d']
  | .comma => core = [',']
  | .colon => core = [':']
  | .null => core = ['n', 'u', 'l', 'l']
  | .boolean true => core = ['t', 'r', 'u', 'e']
  | .boolean false => core = ['f', 'a', 'l', 's', 'e']
  | .number value => WritesNumber core value
  | .string value => WritesString core value

/-- What may follow a value: nothing, white space, a comma or a closing bracket or brace. -/
def EndsValue (rest : List Char) : Prop :=
  ∀ mark ∈ rest.head?, isSpace mark = true ∨ mark = ',' ∨ mark = ']' ∨ mark = '\x7d'

/-- Tokens in their order, each in one of its forms, with white space between them. -/
inductive Cut : List Char → List Token → Prop where
  /-- No further token. -/
  | finished {blank : List Char} (spaces : AreSpaces blank) : Cut blank []
  /-- A token and those after it. -/
  | token {before core rest : List Char} {token : Token} {tokens : List Token}
      (spaces : AreSpaces before) (spells : token.Spells core) (further : Cut rest tokens) :
      Cut (before ++ (core ++ rest)) (token :: tokens)

variable {characters core before rest : List Char} {done tokens : List Token} {token : Token}
  {first : Char} {count : Nat}

/-- What may follow a value ends a number. -/
theorem EndsValue.endsBefore (ends : EndsValue rest) (decimal : Decimal) :
    decimal.EndsBefore rest := by
  have each : ∀ mark ∈ rest.head?, isDigit mark = false ∧ mark ≠ '.' ∧ mark ≠ 'e' ∧ mark ≠ 'E' := by
    intro mark head
    have spaces : ∀ space ∈ [' ', '\t', '\n', '\r'],
        isDigit space = false ∧ space ≠ '.' ∧ space ≠ 'e' ∧ space ≠ 'E' := by
      simp only [List.forall_mem_cons, List.not_mem_nil, false_implies, implies_true, and_true]
      decide
    obtain blank | rfl | rfl | rfl := ends mark head
    · exact spaces mark (isSpace_iff.mp blank)
    all_goals decide
  exact ⟨⟨fun mark head => (each mark head).1, fun _ mark head => by simp [each mark head]⟩,
    fun _ _ head => (each '.' head).2.1 rfl⟩

/-- White space ends a value if what follows it does. -/
theorem AreSpaces.endsValue_append (spaces : AreSpaces before) (ends : EndsValue rest) :
    EndsValue (before ++ rest) := by
  cases before with
  | nil => exact ends
  | cons space further =>
    rintro mark ⟨⟩
    exact .inl (isSpace_iff.mpr (spaces space List.mem_cons_self))

/-- White space before a token is passed over. -/
theorem AreSpaces.lexFrom_append (spaces : AreSpaces before) :
    lexFrom done (before ++ rest) = lexFrom done rest := by
  induction before with
  | nil => rfl
  | cons space further ih =>
    rw [List.cons_append, lexFrom_of_isSpace (isSpace_iff.mpr (spaces space List.mem_cons_self)),
      ih fun other member => spaces other (List.mem_cons_of_mem _ member)]

section Tokens

/-- The tokens go on after a form of one of them. -/
theorem lexFrom_of_lexToken {further : List Char} (visible : ¬isSpace first = true)
    (read : lexToken first (further ++ rest) = .ok (token, further.length)) :
    lexFrom done (first :: (further ++ rest)) = lexFrom (token :: done) rest := by
  rw [lexFrom_of_ok visible read, List.drop_left]

/-- A token of one character is read. -/
theorem lexFrom_of_mark (visible : ¬isSpace first = true)
    (read : lexToken first rest = .ok (token, 0)) :
    lexFrom done (first :: rest) = lexFrom (token :: done) rest := by
  rw [lexFrom_of_ok visible read, List.drop_zero]

/-- A word is read. -/
theorem lexWord_append (word : List Char) : lexWord word (word ++ rest) = .ok word.length := by
  rw [lexWord, if_pos (List.isPrefixOf_iff_prefix.mpr (List.prefix_append _ _))]

/-- What is read as a word begins with it. -/
theorem exists_of_lexWord {word : List Char} (read : lexWord word characters = .ok count) :
    ∃ rest, characters = word ++ rest ∧ count = word.length := by
  unfold lexWord at read
  split at read
  · rename_i whole
    obtain ⟨rest, same⟩ := List.isPrefixOf_iff_prefix.mp whole
    exact ⟨rest, same.symm, (Except.ok.inj read).symm⟩
  · split at read <;> cases read

/-- A token that begins with a digit is a number. -/
theorem lexToken_of_isDigit (digit : isDigit first = true) (rest : List Char) :
    lexToken first rest =
      (lexMagnitude false (first :: rest)).map fun (number, count) =>
        (.number number, count - 1) := by
  unfold lexToken
  split
  case h_12 => rfl
  all_goals exact absurd digit (by decide)

/-- A number is read as one token. -/
theorem WritesNumber.lexFrom_append {number : Number} (written : WritesNumber core number)
    (ends : EndsValue rest) :
    lexFrom done (core ++ rest) = lexFrom (.number number :: done) rest := by
  obtain ⟨decimal, rfl, value⟩ := written
  have taken := Decimal.lexMagnitude_append value (ends.endsBefore decimal)
  rw [Decimal.characters]
  cases negative : decimal.isNegative with
  | true =>
    refine lexFrom_of_lexToken (by decide) ?_
    change (lexMagnitude true (decimal.magnitude ++ rest)).map _ = _
    rw [← negative, taken]
    rfl
  | false =>
    obtain ⟨first, further, whole, digit⟩ := decimal.whole.exists_cons
    have begins : decimal.magnitude = first :: (further ++ decimal.tail) := by
      rw [Decimal.magnitude, whole, List.cons_append]
    have visible : ¬isSpace first = true := by
      intro blank
      rw [isDigit_of_isSpace blank] at digit
      cases digit
    rw [negative, begins] at taken
    simp only [begins, Bool.false_eq_true, if_false, List.nil_append, List.cons_append]
    refine lexFrom_of_lexToken visible ?_
    rw [lexToken_of_isDigit digit, ← List.cons_append, taken]
    rfl

/-- A string is read as one token. -/
theorem WritesString.lexFrom_append {text : String} (written : WritesString core text) :
    lexFrom done (core ++ rest) = lexFrom (.string text :: done) rest := by
  obtain ⟨pieces, each, rfl⟩ := written
  have read : lexToken '"' ((pieces.flatten ++ ['"']) ++ rest) =
      .ok (.string text, (pieces.flatten ++ ['"']).length) := by
    change (lexString [] 0 _).map _ = _
    rw [List.append_assoc, List.singleton_append, lexString_flatten each]
    simp [Except.map]
  exact lexFrom_of_lexToken (by decide) read

/-- A form of a token is read as the token where a value may end. -/
theorem Token.Spells.lexFrom_append (spells : token.Spells core) (ends : EndsValue rest) :
    lexFrom done (core ++ rest) = lexFrom (token :: done) rest := by
  have word : ∀ (first : Char) (word : List Char) (token : Token), ¬isSpace first = true →
      lexToken first (word ++ rest) =
        (lexWord word (word ++ rest)).map (fun count => (token, count)) →
      lexFrom done (first :: (word ++ rest)) = lexFrom (token :: done) rest := by
    intro first word token visible read
    rw [lexWord_append] at read
    exact lexFrom_of_lexToken visible read
  cases token with
  | number number => exact WritesNumber.lexFrom_append spells ends
  | string text => exact WritesString.lexFrom_append spells
  | null =>
    obtain rfl : core = ['n', 'u', 'l', 'l'] := spells
    exact word 'n' ['u', 'l', 'l'] .null (by decide) rfl
  | boolean value =>
    cases value with
    | true =>
      obtain rfl : core = ['t', 'r', 'u', 'e'] := spells
      exact word 't' ['r', 'u', 'e'] (.boolean true) (by decide) rfl
    | false =>
      obtain rfl : core = ['f', 'a', 'l', 's', 'e'] := spells
      exact word 'f' ['a', 'l', 's', 'e'] (.boolean false) (by decide) rfl
  | _ =>
    obtain rfl := spells
    exact lexFrom_of_mark (by decide) rfl

/-- What is read as a token is one of its forms. -/
theorem exists_of_lexToken (read : lexToken first characters = .ok (token, count)) :
    ∃ further rest, characters = further ++ rest ∧ count = further.length ∧
      token.Spells (first :: further) := by
  unfold lexToken at read
  split at read
  case h_7 | h_8 | h_9 =>
    obtain ⟨length, word, same⟩ := Effect.except_map_eq_ok.mp read
    obtain ⟨rfl, rfl⟩ := Prod.mk.inj same
    obtain ⟨rest, rfl, rfl⟩ := exists_of_lexWord word
    exact ⟨_, rest, rfl, rfl, rfl⟩
  case h_10 =>
    obtain ⟨⟨text, length⟩, string, same⟩ := Effect.except_map_eq_ok.mp read
    obtain ⟨rfl, rfl⟩ := Prod.mk.inj same
    obtain ⟨pieces, written, rest, each, rfl, result⟩ := exists_of_lexString string
    obtain ⟨rfl, rfl⟩ := Prod.mk.inj result
    refine ⟨pieces.flatten ++ ['"'], rest, by simp, by simp, pieces, ?_, rfl⟩
    simpa using each
  case h_11 =>
    obtain ⟨⟨number, length⟩, magnitude, same⟩ := Effect.except_map_eq_ok.mp read
    obtain ⟨rfl, rfl⟩ := Prod.mk.inj same
    obtain ⟨decimal, rest, negative, rfl, rfl, value⟩ := exists_of_lexMagnitude magnitude
    refine ⟨decimal.magnitude, rest, rfl, rfl, decimal, ?_, value⟩
    rw [Decimal.characters, negative]
    rfl
  case h_12 =>
    obtain ⟨⟨number, length⟩, magnitude, same⟩ := Effect.except_map_eq_ok.mp read
    obtain ⟨rfl, rfl⟩ := Prod.mk.inj same
    obtain ⟨decimal, rest, positive, whole, rfl, value⟩ := exists_of_lexMagnitude magnitude
    obtain ⟨digit, digits, begins, -⟩ := decimal.whole.exists_cons
    rw [Decimal.magnitude, begins, List.cons_append, List.cons_append] at whole
    obtain ⟨rfl, rfl⟩ := List.cons.inj whole
    refine ⟨digits ++ decimal.tail, rest, rfl, ?_, decimal, ?_, value⟩
    · rw [Decimal.magnitude, begins]
      rfl
    · rw [Decimal.characters, positive, Decimal.magnitude, begins]
      rfl
  all_goals
    obtain ⟨rfl, rfl⟩ := Prod.mk.inj (Except.ok.inj read)
    exact ⟨[], characters, rfl, rfl, rfl⟩

/-- White space before a text leaves its tokens. -/
theorem Cut.cons_space (cut : Cut characters tokens) (blank : isSpace first = true) :
    Cut (first :: characters) tokens := by
  cases cut with
  | finished spaces => exact .finished (List.forall_mem_cons.mpr ⟨isSpace_iff.mp blank, spaces⟩)
  | @token before core rest token tokens spaces spells further =>
    have more : AreSpaces (first :: before) := List.forall_mem_cons.mpr ⟨isSpace_iff.mp blank, spaces⟩
    exact .token more spells further

/-- A text without a fault is its tokens in their order. -/
theorem cut_of_lexFrom (finished : lexFrom done characters = (tokens, .finished)) :
    ∃ further, tokens = done.reverse ++ further ∧ Cut characters further := by
  induction done, characters using lexFrom.induct with
  | case1 done =>
    rw [lexFrom] at finished
    obtain ⟨rfl, -⟩ := Prod.mk.inj finished
    exact ⟨[], by simp, .finished (by simp [AreSpaces])⟩
  | case2 done first rest blank ih =>
    rw [lexFrom_of_isSpace blank] at finished
    obtain ⟨further, same, cut⟩ := ih finished
    exact ⟨further, same, cut.cons_space blank⟩
  | case3 done first rest visible fault failed =>
    rw [lexFrom_of_error visible failed] at finished
    cases finished
  | case4 done first rest visible token count read ih =>
    rw [lexFrom_of_ok visible read] at finished
    obtain ⟨further, rfl, cut⟩ := ih finished
    obtain ⟨core, last, rfl, rfl, spells⟩ := exists_of_lexToken read
    rw [List.drop_left] at cut
    have nothing : AreSpaces [] := by simp [AreSpaces]
    have whole : Cut ([] ++ (first :: core ++ last)) (token :: further) := .token nothing spells cut
    exact ⟨token :: further, by simp, whole⟩

end Tokens

end DecompileServer.Json

import DecompileServer.Proofs.Json.Grammar
import DecompileServer.Proofs.Json.Lexer

/-!
# Strings

Each step of the reader of strings takes the characters that write one character of the string
(`WritesCharacter.lexString_append` and `exists_written`), so up to the closing quote it takes what
writes the string.
-/
namespace DecompileServer.Json

variable {characters digits rest done : List Char} {code count : Nat} {character : Char}

/-- The characters of the hexadecimal digits, by their codes. -/
theorem hexDigit_codes : ∀ digit < 16,
    Nat.digitChar digit = Char.ofNat (if digit < 10 then 48 + digit else 87 + digit) ∧
      (Nat.digitChar digit).toUpper = Char.ofNat (if digit < 10 then 48 + digit else 55 + digit) ∧
      hexDigit? (Nat.digitChar digit) = some digit ∧
      hexDigit? (Nat.digitChar digit).toUpper = some digit := by
  decide

/-- A hexadecimal digit is read as its number. -/
theorem hexDigit?_eq_some {digit : Nat} :
    hexDigit? character = some digit ↔ IsHexDigit character digit := by
  constructor
  · intro read
    have code : Char.ofNat character.toNat = character := Char.ofNat_toNat character
    simp only [hexDigit?, Char.le_def, UInt32.le_iff_toNat_le] at read
    change (if 48 ≤ character.toNat ∧ character.toNat ≤ 57 then _
      else if 97 ≤ character.toNat ∧ character.toNat ≤ 102 then _
      else if 65 ≤ character.toNat ∧ character.toNat ≤ 70 then _ else none) = _ at read
    split at read
    · obtain rfl := Option.some.inj read
      obtain ⟨small, -⟩ := hexDigit_codes (character.toNat - 48) (by omega)
      rw [if_pos (by omega), Nat.add_sub_cancel' (by omega), code] at small
      exact ⟨by omega, .inl small.symm⟩
    split at read
    · obtain rfl := Option.some.inj read
      obtain ⟨small, -⟩ := hexDigit_codes (character.toNat - 87) (by omega)
      rw [if_neg (by omega), Nat.add_sub_cancel' (by omega), code] at small
      exact ⟨by omega, .inl small.symm⟩
    split at read
    · obtain rfl := Option.some.inj read
      obtain ⟨-, capital, -⟩ := hexDigit_codes (character.toNat - 55) (by omega)
      rw [if_neg (by omega), Nat.add_sub_cancel' (by omega), code] at capital
      exact ⟨by omega, .inr capital.symm⟩
    · cases read
  · rintro ⟨small, rfl | rfl⟩
    · exact (hexDigit_codes digit small).2.2.1
    · exact (hexDigit_codes digit small).2.2.2

/-- A code has four digits. -/
theorem WritesCode.length_eq (written : WritesCode digits code) : digits.length = 4 := by
  obtain ⟨a, b, c, d, first, second, third, fourth, rfl, -⟩ := written
  rfl

/-- A hexadecimal number of four digits is read. -/
theorem WritesCode.fourDigits_append (written : WritesCode digits code) (rest : List Char) :
    fourDigits (digits ++ rest) = .ok code := by
  obtain ⟨a, b, c, d, first, second, third, fourth, rfl, one, two, three, four, rfl⟩ := written
  have long : ¬((a :: b :: c :: d :: rest).take 4).foldl
      (fun size character => size + character.utf8Size) 0 < 4 := by
    have := a.utf8Size_pos
    have := b.utf8Size_pos
    have := c.utf8Size_pos
    have := d.utf8Size_pos
    change ¬0 + a.utf8Size + b.utf8Size + c.utf8Size + d.utf8Size < 4
    omega
  change fourDigits (a :: b :: c :: d :: rest) = _
  rw [fourDigits, if_neg long]
  simp only [hexDigit?_eq_some.mpr one, hexDigit?_eq_some.mpr two, hexDigit?_eq_some.mpr three,
    hexDigit?_eq_some.mpr four]

/-- What is read as four hexadecimal digits are such digits. -/
theorem exists_writesCode (read : fourDigits characters = .ok code) :
    ∃ digits rest, characters = digits ++ rest ∧ WritesCode digits code := by
  unfold fourDigits at read
  split at read
  · cases read
  split at read
  · rename_i a b c d rest _
    split at read
    · rename_i first second third fourth one two three four
      obtain rfl := Except.ok.inj read
      exact ⟨[a, b, c, d], rest, rfl, a, b, c, d, first, second, third, fourth, rfl,
        hexDigit?_eq_some.mp one, hexDigit?_eq_some.mp two, hexDigit?_eq_some.mp three,
        hexDigit?_eq_some.mp four, rfl⟩
    · cases read
  · cases read

/-- The code of a character is read. -/
theorem codeEscape_of_whole (written : WritesCode digits code)
    (whole : code < 0xD800 ∨ 0xE000 ≤ code) :
    codeEscape (digits ++ rest) = .ok (Char.ofNat code, digits.length) := by
  have notLow : ¬(0xDC00 ≤ code ∧ code < 0xE000) := by omega
  have notHigh : ¬(0xD800 ≤ code ∧ code < 0xDC00) := by omega
  rw [codeEscape_eq, written.fourDigits_append, written.length_eq]
  change (if _ then _ else _) = _
  rw [if_neg notLow, if_neg notHigh]
  rfl

/-- The codes of the two halves of a character are read. -/
theorem codeEscape_of_halves {upper lower : List Char} {high low : Nat}
    (writtenHigh : WritesCode upper high) (isHigh : 0xD800 ≤ high ∧ high < 0xDC00)
    (writtenLow : WritesCode lower low) (isLow : 0xDC00 ≤ low ∧ low < 0xE000) :
    codeEscape ((upper ++ '\\' :: 'u' :: lower) ++ rest) =
      .ok (Char.ofNat (0x10000 + (high - 0xD800) * 0x400 + (low - 0xDC00)),
        (upper ++ '\\' :: 'u' :: lower).length) := by
  have notLow : ¬(0xDC00 ≤ high ∧ high < 0xE000) := by omega
  have total : (upper ++ '\\' :: 'u' :: lower).length = 10 := by
    simp [writtenHigh.length_eq, writtenLow.length_eq]
  have second : (upper ++ '\\' :: 'u' :: (lower ++ rest)).drop 4 =
      '\\' :: 'u' :: (lower ++ rest) := by
    rw [← writtenHigh.length_eq, List.drop_left]
  rw [List.append_assoc, List.cons_append, List.cons_append, codeEscape_eq,
    writtenHigh.fourDigits_append, total]
  change (if _ then _ else _) = _
  rw [if_neg notLow, if_pos isHigh, second, lowHalf, writtenLow.fourDigits_append]
  exact if_pos isLow

/-- A letter after a backslash writes its character. -/
theorem escape_of_known {letter : Char} (known : (letter, character) ∈ letterEscapes) :
    escape letter rest = .ok (character, 0) := by
  simp only [letterEscapes, List.mem_cons, List.not_mem_nil, or_false, Prod.mk.injEq] at known
  rcases known with ⟨rfl, rfl⟩ | ⟨rfl, rfl⟩ | ⟨rfl, rfl⟩ | ⟨rfl, rfl⟩ | ⟨rfl, rfl⟩ | ⟨rfl, rfl⟩ |
    ⟨rfl, rfl⟩ | ⟨rfl, rfl⟩ <;> rfl

/-- A string goes on after what an escape takes. -/
theorem lexString_escape_append {letter : Char} {further : List Char}
    (read : escape letter (further ++ rest) = .ok (character, further.length)) :
    lexString done count ('\\' :: letter :: (further ++ rest)) =
      lexString (character :: done) (count + ('\\' :: letter :: further).length) rest := by
  rw [lexString_escape_ok read, List.drop_left, List.length_cons, List.length_cons]
  congr 1
  omega

/-- What writes a character of a string is read as this character. -/
theorem WritesCharacter.lexString_append (written : WritesCharacter characters character) :
    lexString done count (characters ++ rest) =
      lexString (character :: done) (count + characters.length) rest := by
  cases written with
  | plain quote slash visible => exact lexString_plain quote slash visible
  | @letter letter character known =>
    have read : escape letter ([] ++ rest) = .ok (character, ([] : List Char).length) :=
      escape_of_known known
    exact lexString_escape_append read
  | code written whole =>
    exact lexString_escape_append (codeEscape_of_whole written whole)
  | halves writtenHigh isHigh writtenLow isLow =>
    exact lexString_escape_append (codeEscape_of_halves writtenHigh isHigh writtenLow isLow)

/-- What is read as the second half of a character is its code after a backslash and a letter. -/
theorem exists_of_lowHalf {result : Char × Nat} (read : lowHalf code characters = .ok result) :
    ∃ lower rest low, characters = '\\' :: 'u' :: (lower ++ rest) ∧ WritesCode lower low ∧
      0xDC00 ≤ low ∧ low < 0xE000 ∧
      result = (Char.ofNat (0x10000 + (code - 0xD800) * 0x400 + (low - 0xDC00)), 10) := by
  unfold lowHalf at read
  split at read
  · cases read
  · cases read
  · rename_i further
    cases second : fourDigits further with
    | error fault => simp [second, bind, Except.bind] at read
    | ok low =>
      obtain ⟨lower, rest, rfl, written⟩ := exists_writesCode second
      rw [second] at read
      change (if _ then _ else _) = _ at read
      split at read
      · rename_i isLow
        exact ⟨lower, rest, low, rfl, written, isLow.1, isLow.2, (Except.ok.inj read).symm⟩
      · cases read
  · cases read

/-- What is read as the code of a character is its code or those of its halves. -/
theorem exists_of_codeEscape {result : Char × Nat} (read : codeEscape characters = .ok result) :
    ∃ further rest, characters = further ++ rest ∧ result.2 = further.length ∧
      WritesCharacter ('\\' :: 'u' :: further) result.1 := by
  rw [codeEscape_eq] at read
  cases first : fourDigits characters with
  | error fault => simp [first, bind, Except.bind] at read
  | ok code =>
    obtain ⟨digits, rest, rfl, written⟩ := exists_writesCode first
    have length := written.length_eq
    rw [first] at read
    change (if _ then _ else _) = _ at read
    split at read
    · cases read
    split at read
    · rename_i notLow isHigh
      rw [← length, List.drop_left] at read
      obtain ⟨lower, last, low, rfl, writtenLow, least, most, rfl⟩ := exists_of_lowHalf read
      refine ⟨digits ++ '\\' :: 'u' :: lower, last, by simp,
        by simp [length, writtenLow.length_eq], ?_⟩
      dsimp only
      exact .halves written isHigh writtenLow ⟨least, most⟩
    · rename_i notLow notHigh
      obtain rfl := Except.ok.inj read
      exact ⟨digits, rest, rfl, length.symm, .code written (by omega)⟩

/-- What is read as an escape writes its character. -/
theorem exists_of_escape {letter : Char} {result : Char × Nat}
    (read : escape letter characters = .ok result) :
    ∃ further rest, characters = further ++ rest ∧ result.2 = further.length ∧
      WritesCharacter ('\\' :: letter :: further) result.1 := by
  unfold escape at read
  split at read
  case h_9 => exact exists_of_codeEscape read
  case h_10 => cases read
  all_goals
    obtain rfl := Except.ok.inj read
    exact ⟨[], characters, rfl, rfl, .letter (by simp [letterEscapes])⟩

/-- What writes the characters of a string is read up to the quote after it. -/
theorem lexString_flatten {pieces : List (List Char)} {written : List Char}
    (each : List.Forall₂ WritesCharacter pieces written) :
    lexString done count (pieces.flatten ++ '"' :: rest) =
      .ok (String.ofList (done.reverse ++ written), count + pieces.flatten.length + 1) := by
  induction each generalizing done count with
  | nil => simp [lexString_quote]
  | cons first further ih =>
    rw [List.flatten_cons, List.append_assoc, first.lexString_append, ih]
    simp [Nat.add_assoc]

/-- What is read as a string is a quote after what writes its characters. -/
theorem exists_of_lexString {result : String × Nat}
    (read : lexString done count characters = .ok result) :
    ∃ pieces written rest, List.Forall₂ WritesCharacter pieces written ∧
      characters = pieces.flatten ++ '"' :: rest ∧
      result = (String.ofList (done.reverse ++ written), count + pieces.flatten.length + 1) := by
  induction done, count, characters using lexString.induct with
  | case1 => simp [lexString_nil] at read
  | case2 done count rest =>
    rw [lexString_quote] at read
    exact ⟨[], [], rest, .nil, rfl, by simpa using (Except.ok.inj read).symm⟩
  | case3 => simp [lexString_lone] at read
  | case4 done count letter further fault failed => simp [lexString_escape_error failed] at read
  | case5 done count letter further written extra escaped _ ih =>
    rw [lexString_escape_ok escaped] at read
    obtain ⟨core, after, rfl, length, first⟩ := exists_of_escape escaped
    dsimp only at length first
    rw [length, List.drop_left] at ih read
    obtain ⟨pieces, others, rest, each, rfl, rfl⟩ := ih read
    refine ⟨('\\' :: letter :: core) :: pieces, written :: others, rest, .cons first each,
      by simp, ?_⟩
    simp [Nat.add_assoc, Nat.add_comm, Nat.add_left_comm]
  | case6 done count first rest quote slash control =>
    simp [lexString_control quote slash control] at read
  | case7 done count first further quote slash plain ih =>
    rw [lexString_plain quote slash plain] at read
    obtain ⟨pieces, others, rest, each, rfl, rfl⟩ := ih read
    refine ⟨[first] :: pieces, first :: others, rest, .cons (.plain quote slash plain) each,
      rfl, ?_⟩
    simp [Nat.add_comm, Nat.add_left_comm]

end DecompileServer.Json

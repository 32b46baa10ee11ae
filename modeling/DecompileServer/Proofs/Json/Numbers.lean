import DecompileServer.Proofs.Effect
import DecompileServer.Proofs.Json.Doubles
import DecompileServer.Proofs.Json.Lexer
import Mathlib.Data.List.Induction
import Mathlib.Data.List.TakeWhile
import Mathlib.Order.Basic

/-!
# Numbers

What a reader takes for a number has the form of one (`exists_of_lexMagnitude`), and a number
that ends before what follows is read as what it writes (`Decimal.lexMagnitude_append`).
-/
namespace DecompileServer.Json

/-- Whether characters do not begin with a digit. -/
def EndsDigits (rest : List Char) : Prop :=
  ∀ mark ∈ rest.head?, isDigit mark = false

/-- Whether digits and what is written of a power end before the characters that follow. -/
structure EndsPower (power : Option Power) (rest : List Char) : Prop where
  /-- No digit follows. -/
  digits : EndsDigits rest
  /-- No power follows if there is none yet. -/
  letter : power = none → ∀ mark ∈ rest.head?, ¬(mark = 'e' ∨ mark = 'E')

/-- Whether a number ends before the characters that follow. -/
structure Decimal.EndsBefore (decimal : Decimal) (rest : List Char) : Prop where
  /-- Its digits and its power end. -/
  power : EndsPower decimal.power rest
  /-- No point follows digits alone. -/
  point : decimal.fraction = none → decimal.power = none → rest.head? ≠ some '.'

variable {characters rest : List Char}

namespace Digits

/-- A character of digits is one. -/
theorem isDigit_of_mem (digits : Digits) {digit : Char} (member : digit ∈ digits.characters) :
    isDigit digit = true := by
  rw [isDigit_eq]
  exact digits.each digit member

/-- Digits begin with one. -/
theorem exists_cons (digits : Digits) :
    ∃ first further, digits.characters = first :: further ∧ isDigit first = true := by
  obtain ⟨first, further, whole⟩ := List.exists_cons_of_ne_nil digits.nonempty
  exact ⟨first, further, whole, digits.isDigit_of_mem (by simp [whole])⟩

/-- Digits are taken up to what follows them. -/
theorem takeWhile_append (digits : Digits) (ends : EndsDigits rest) :
    (digits.characters ++ rest).takeWhile isDigit = digits.characters := by
  rw [List.takeWhile_append_of_pos fun _ => digits.isDigit_of_mem]
  cases rest with
  | nil => simp
  | cons mark further => simp [ends mark rfl]

/-- The digits at the front of some characters. -/
theorem exists_front (begins : characters.takeWhile isDigit ≠ []) :
    ∃ (digits : Digits) (rest : List Char), characters = digits.characters ++ rest ∧
      EndsDigits rest := by
  have each : ∀ digit ∈ characters.takeWhile isDigit, digit.isDigit = true := by
    intro digit member
    rw [← isDigit_eq]
    exact List.mem_takeWhile_imp member
  refine ⟨⟨characters.takeWhile isDigit, begins, each⟩, characters.dropWhile isDigit,
    List.takeWhile_append_dropWhile.symm, fun mark first => ?_⟩
  have stops := List.head?_dropWhile_not isDigit characters
  rw [Option.mem_def.mp first] at stops
  exact stops

/-- The value of digits, added up from the front. -/
theorem foldl_digitValue (characters : List Char) (value : Nat) :
    characters.foldl (fun value digit => value * 10 + digitValue digit) value =
      Nat.ofDigitChars 10 characters value := by
  rw [Nat.ofDigitChars_eq_foldl]
  congr 1
  funext value digit
  rw [Nat.mul_comm]
  rfl

end Digits

/-- More digits write a number that is no less. -/
theorem le_ofDigitChars (digits : List Char) (value : Nat) :
    value ≤ Nat.ofDigitChars 10 digits value := by
  rw [Nat.ofDigitChars_eq_ofDigitChars_zero]
  have power : 1 ≤ 10 ^ digits.length := Nat.one_le_pow _ _ (by decide)
  exact (Nat.le_mul_of_pos_left value power).trans (Nat.le_add_right _ _)

/-- The number of digits goes on with the first of them. -/
theorem ofDigitChars_cons (first : Char) (further : List Char) (value : Nat) :
    Nat.ofDigitChars 10 (first :: further) value =
      Nat.ofDigitChars 10 further (value * 10 + digitValue first) := by
  rw [← Digits.foldl_digitValue, ← Digits.foldl_digitValue, List.foldl_cons]

/-- A digit is that of its value. -/
theorem digitChar_digitValue {digit : Char} (known : isDigit digit = true) :
    digitValue digit < 10 ∧ Nat.digitChar (digitValue digit) = digit := by
  have bounds : 48 ≤ digit.toNat ∧ digit.toNat ≤ 57 := by
    simpa [isDigit, Char.le_def, UInt32.le_iff_toNat_le] using known
  have shown : ∀ value < 10, Nat.digitChar value = Char.ofNat (48 + value) := by decide
  have below : digitValue digit < 10 := by
    rw [digitValue]
    omega
  refine ⟨below, ?_⟩
  rw [shown _ below, digitValue, Nat.add_sub_cancel' bounds.1, Char.ofNat_toNat]

/-- The number of digits is bounded by how many they are. -/
theorem ofDigitChars_lt (digits : List Char) (each : ∀ digit ∈ digits, isDigit digit = true)
    (value : Nat) : Nat.ofDigitChars 10 digits value < (value + 1) * 10 ^ digits.length := by
  induction digits generalizing value with
  | nil => simp
  | cons first further ih =>
    obtain ⟨below, -⟩ := digitChar_digitValue (each first List.mem_cons_self)
    rw [ofDigitChars_cons, List.length_cons]
    calc Nat.ofDigitChars 10 further (value * 10 + digitValue first)
        < (value * 10 + digitValue first + 1) * 10 ^ further.length :=
          ih (fun digit member => each digit (List.mem_cons_of_mem _ member)) _
      _ ≤ (value + 1) * 10 * 10 ^ further.length := Nat.mul_le_mul_right _ (by omega)
      _ = (value + 1) * 10 ^ (further.length + 1) := by rw [Nat.mul_assoc, Nat.pow_succ']

/-- Digits are taken from the front as long as their number is below the limit. -/
theorem addDigits_spec (digits : List Char) (value taken : Nat) (small : value < wordLimit) :
    ∃ front, front <+: digits ∧ Nat.ofDigitChars 10 front value < wordLimit ∧
      (∀ more, more <+: digits → Nat.ofDigitChars 10 more value < wordLimit →
        more.length ≤ front.length) ∧
      addDigits value taken digits =
        (Nat.ofDigitChars 10 front value, taken + front.length) := by
  induction digits generalizing value taken with
  | nil =>
    refine ⟨[], List.nil_prefix, small, fun more front _ => ?_, rfl⟩
    rw [List.prefix_nil.mp front]
  | cons first further ih =>
    by_cases next : value * 10 + digitValue first < wordLimit
    · obtain ⟨front, isPrefix, fits, most, read⟩ := ih _ (taken + 1) next
      refine ⟨first :: front, List.prefix_cons_iff.mpr (.inr ⟨front, rfl, isPrefix⟩), ?_, ?_, ?_⟩
      · rwa [ofDigitChars_cons]
      · intro more isMore below
        obtain rfl | ⟨others, rfl, isFront⟩ := List.prefix_cons_iff.mp isMore
        · exact Nat.zero_le _
        · rw [ofDigitChars_cons] at below
          exact Nat.succ_le_succ (most others isFront below)
      · rw [addDigits, if_pos next, read, ofDigitChars_cons, List.length_cons]
        congr 1
        omega
    · refine ⟨[], List.nil_prefix, small, fun more isFront below => ?_, ?_⟩
      · obtain rfl | ⟨others, rfl, -⟩ := List.prefix_cons_iff.mp isFront
        · exact Nat.le_refl 0
        · rw [ofDigitChars_cons] at below
          exact absurd ((le_ofDigitChars others _).trans_lt below) next
      · rw [addDigits, if_neg next]
        rfl

/-- All digits of a number are taken exactly if it is below the limit. -/
theorem addDigits_full {digits : List Char} :
    (addDigits 0 0 digits).2 = digits.length ↔ Nat.ofDigitChars 10 digits 0 < wordLimit := by
  obtain ⟨front, isPrefix, fits, most, read⟩ := addDigits_spec digits 0 0 (by decide)
  rw [read, Nat.zero_add]
  constructor
  · intro full
    rwa [← isPrefix.eq_of_length full]
  · exact fun small => Nat.le_antisymm isPrefix.length_le (most digits (List.prefix_refl _) small)

/-- The number of all digits is the one that is read, if it is below the limit. -/
theorem addDigits_of_lt {digits : List Char} (small : Nat.ofDigitChars 10 digits 0 < wordLimit) :
    addDigits 0 0 digits = (Nat.ofDigitChars 10 digits 0, digits.length) := by
  have full := addDigits_full.mpr small
  obtain ⟨front, isPrefix, -, -, read⟩ := addDigits_spec digits 0 0 (by decide)
  rw [read, Nat.zero_add] at full ⊢
  rw [isPrefix.eq_of_length full]

/-- The range of integers. -/
theorem isWide_iff {value : Int} :
    isWide value = true ↔ -0x8000000000000000 ≤ value ∧ value < 0x10000000000000000 := by
  simp [isWide]

section Powers

variable {isNegative : Bool} {significand count : Nat} {before : Int}

/-- The digits of an exponent are read after its sign. -/
theorem lexDigits_append (digits : Digits) (ends : EndsDigits rest) (signs : Nat) :
    lexDigits isNegative signs (digits.characters ++ rest) =
      .ok (if isNegative then -(digits.number : Int) else digits.number,
        signs + digits.characters.length) := by
  have taken := digits.takeWhile_append ends
  obtain ⟨first, further, whole, digit⟩ := digits.exists_cons
  have value : (first :: further).foldl (fun value digit => value * 10 + digitValue digit) 0 =
      digits.number := by
    rw [Digits.foldl_digitValue, ← whole]
    rfl
  rw [whole, List.cons_append] at taken
  rw [whole, List.cons_append, lexDigits, digit, if_neg (by simp)]
  dsimp only
  rw [taken, value]

/-- The exponent of a power is read. -/
theorem Power.lexExponent_append (power : Power) (ends : EndsDigits rest) :
    lexExponent (power.sign ++ (power.digits.characters ++ rest)) =
      .ok (power.exponent, power.sign.length + power.digits.characters.length) := by
  obtain ⟨first, further, whole, digit⟩ := power.digits.exists_cons
  have unsigned : signOf (power.digits.characters ++ rest) =
      (false, 0, power.digits.characters ++ rest) := by
    rw [whole, List.cons_append, signOf]
    all_goals
      intro further same
      rw [(List.cons.inj same).1] at digit
      cases digit
  have sign := power.isSign
  simp only [List.mem_cons, List.not_mem_nil, or_false] at sign
  rw [lexExponent_eq, Power.exponent]
  obtain none | plus | minus := sign
  · rw [none, List.nil_append, unsigned, lexDigits_append _ ends]
    rfl
  · rw [plus]
    exact lexDigits_append _ ends 1
  · rw [minus]
    exact lexDigits_append _ ends 1

/-- The power after the digits of a number is read, if there is one. -/
theorem lexScaled_append {power : Option Power} (ends : EndsPower power rest) :
    lexScaled isNegative significand before count
        ((power.map Power.characters).getD [] ++ rest) =
      (withExponent isNegative significand before ((power.map Power.exponent).getD 0)).map
        fun number => (number, count + ((power.map Power.characters).getD []).length) := by
  cases power with
  | none =>
    cases rest with
    | nil => rfl
    | cons mark further =>
      have other := ends.letter rfl mark rfl
      simp only [Option.map_none, Option.getD_none, List.nil_append, lexScaled, if_neg other]
      rfl
  | some power =>
    have letter := power.isLetter
    have length : count + 1 + (power.sign.length + power.digits.characters.length) =
        count + power.characters.length := by
      rw [Power.characters, List.length_cons, List.length_append]
      omega
    simp only [Option.map_some, Option.getD_some]
    rw [Power.characters, List.cons_append, List.append_assoc, lexScaled, if_pos letter,
      power.lexExponent_append ends.digits, ← Power.characters, ← length]
    change (withExponent isNegative significand before power.exponent >>= _) = _
    cases withExponent isNegative significand before power.exponent <;> rfl

/-- What stands after the digits of a number that is read is a power or none. -/
theorem exists_power {result : Number × Nat} (ends : EndsDigits characters)
    (read : lexScaled isNegative significand before count characters = .ok result) :
    ∃ (power : Option Power) (rest : List Char),
      characters = (power.map Power.characters).getD [] ++ rest ∧ EndsPower power rest := by
  cases characters with
  | nil => exact ⟨none, [], rfl, by simp [EndsDigits], by simp⟩
  | cons letter after =>
    by_cases isLetter : letter = 'e' ∨ letter = 'E'
    · rw [lexScaled, if_pos isLetter, lexExponent_eq] at read
      -- The characters after the letter are a sign and what follows it.
      have split : ∃ sign ∈ [[], ['+'], ['-']], after = sign ++ (signOf after).2.2 := by
        unfold signOf
        split
        · exact ⟨['+'], by simp, rfl⟩
        · exact ⟨['-'], by simp, rfl⟩
        · exact ⟨[], by simp, rfl⟩
      obtain ⟨sign, isSign, whole⟩ := split
      have begins : (signOf after).2.2.takeWhile isDigit ≠ [] := by
        intro nothing
        cases unsigned : (signOf after).2.2 with
        | nil => simp [unsigned, lexDigits, bind, Except.bind] at read
        | cons first further =>
          rw [unsigned] at nothing
          have stray : isDigit first = false := by simpa using nothing
          simp [unsigned, lexDigits, stray, bind, Except.bind] at read
      obtain ⟨digits, rest, front, stops⟩ := Digits.exists_front begins
      refine ⟨some ⟨letter, isLetter, sign, isSign, digits⟩, rest, ?_, stops, by simp⟩
      rw [whole, front]
      simp [Power.characters]
    · exact ⟨none, letter :: after, rfl, ends, fun _ mark same => by
        obtain rfl := Option.some.inj same
        exact isLetter⟩

end Powers

namespace Decimal

variable {decimal : Decimal}

/-- The leading digits, as many as fit in 64 bits, and the power of ten that goes with them before
the one that is written. -/
def leading (decimal : Decimal) : Nat × Int :=
  let (whole, taken) := addDigits 0 0 decimal.whole.characters
  let exponent : Int := decimal.whole.characters.length - taken
  match decimal.fraction with
  | none => (whole, exponent)
  | some digits =>
    let (significand, taken) := addDigits whole 0 digits.characters
    (significand, exponent - taken)

/-- The number that is read, unless it is out of range. -/
def number? (decimal : Decimal) : Option Number :=
  if integer : decimal.IsInteger then
    some (.integer decimal.integer (isWide_iff.mpr integer.2.2.1))
  else
    (withExponent decimal.isNegative decimal.leading.1 decimal.leading.2 decimal.exponent).toOption

section Grammar

variable {before digits taken other : List Char}

/-- Digits that fit are taken in one way only. -/
theorem AreTaken.unique (first : AreTaken before digits taken)
    (second : AreTaken before digits other) : taken = other := by
  have least := first.most other second.front second.fit
  have most := second.most taken first.front first.fit
  exact (List.prefix_of_prefix_length_le first.front second.front most).eq_of_length
    (Nat.le_antisymm most least)

/-- Digits are taken as they are read. -/
theorem exists_areTaken (digits : List Char)
    (small : Nat.ofDigitChars 10 before 0 < wordLimit) : ∃ taken, AreTaken before digits taken ∧
      addDigits (Nat.ofDigitChars 10 before 0) 0 digits =
        (Nat.ofDigitChars 10 (before ++ taken) 0, taken.length) := by
  obtain ⟨front, isPrefix, fits, most, read⟩ := addDigits_spec digits _ 0 small
  simp only [← Nat.ofDigitChars_append] at fits most read
  exact ⟨front, ⟨isPrefix, fits, most⟩, by rw [read, Nat.zero_add]⟩

/-- The leading digits are those that are read. -/
theorem leads_iff {significand : Nat} {before : Int} :
    decimal.Leads significand before ↔ decimal.leading = (significand, before) := by
  obtain ⟨whole, isWhole, readWhole⟩ := exists_areTaken decimal.whole.characters
    (show Nat.ofDigitChars 10 [] 0 < wordLimit by decide)
  obtain ⟨fraction, isFraction, readFraction⟩ := exists_areTaken
    ((decimal.fraction.map Digits.characters).getD []) isWhole.fit
  have read : decimal.leading = (Nat.ofDigitChars 10 (whole ++ fraction) 0,
      (decimal.whole.characters.length : Int) - whole.length - fraction.length) := by
    rw [Nat.ofDigitChars_nil, List.nil_append] at readWhole
    rw [List.nil_append] at readFraction
    unfold leading
    cases pointed : decimal.fraction with
    | none =>
      rw [pointed] at readFraction
      obtain ⟨same, nothing⟩ := Prod.mk.inj readFraction
      simp only [readWhole, ← same, ← nothing, Int.natCast_zero, Int.sub_zero]
    | some digits =>
      rw [pointed] at readFraction
      simp only [readWhole]
      rw [show addDigits _ 0 digits.characters = _ from readFraction]
  rw [read]
  constructor
  · rintro ⟨otherWhole, otherFraction, sameWhole, sameFraction, rfl, rfl⟩
    obtain rfl := isWhole.unique sameWhole
    obtain rfl := isFraction.unique sameFraction
    rfl
  · intro same
    obtain ⟨rfl, rfl⟩ := Prod.mk.inj same
    exact ⟨whole, fraction, isWhole, isFraction, rfl, rfl⟩

/-- The leading digits fit in 64 bits. -/
theorem Leads.lt {significand : Nat} {before : Int} (leads : decimal.Leads significand before) :
    significand < wordLimit := by
  obtain ⟨whole, fraction, -, isFraction, rfl, -⟩ := leads
  exact isFraction.fit

/-- The size of a double is in range. -/
theorem HasSize.lt {bits : Nat} (size : decimal.HasSize bits) : bits < Double.infinity := by
  cases size with
  | zero _ => decide
  | vanishing _ => decide
  | scaled leads _ scaled => exact scaled.lt leads.lt

/-- What the leading digits and the power of ten lead to. -/
theorem hasSize_iff {bits : Nat} : decimal.HasSize bits ↔
    (decimal.leading.1 = 0 ∨ decimal.exponent ≤ -0x80000000) ∧ bits = 0 ∨
    (-0x80000000 < decimal.exponent ∧ decimal.exponent < 0x80000000) ∧
      Double.IsScaled decimal.leading.1 (decimal.leading.2 + decimal.exponent) bits := by
  have leads : decimal.Leads decimal.leading.1 decimal.leading.2 := leads_iff.mpr rfl
  constructor
  · rintro (zero | tiny | ⟨known, moderate, scaled⟩)
    · rw [leads_iff.mp zero]
      exact .inl ⟨.inl rfl, rfl⟩
    · exact .inl ⟨.inr tiny, rfl⟩
    · rw [leads_iff.mp known]
      exact .inr ⟨moderate, scaled⟩
  · rintro (⟨zero | tiny, rfl⟩ | ⟨moderate, scaled⟩)
    · rw [zero] at leads
      exact .zero leads
    · exact .vanishing tiny
    · exact .scaled leads moderate scaled

/-- What is read of leading digits and a power of ten is their double. -/
theorem withExponent_eq_ok {isNegative : Bool} {significand : Nat} {before exponent : Int}
    {number : Number} : withExponent isNegative significand before exponent = .ok number ↔
      ∃ bits, ((significand = 0 ∨ exponent ≤ -0x80000000) ∧ bits = 0 ∨
        (-0x80000000 < exponent ∧ exponent < 0x80000000) ∧
          Double.IsScaled significand (before + exponent) bits) ∧
        number = .double (Double.signed isNegative bits) := by
  rw [withExponent, exponentLimit]
  by_cases far : 0x80000000 ≤ exponent.natAbs
  · rw [if_pos far]
    by_cases outside : significand ≠ 0 ∧ 0 < exponent
    · rw [if_pos outside]
      refine iff_of_false (by simp) ?_
      rintro ⟨bits, ⟨none | tiny, -⟩ | ⟨moderate, -⟩, -⟩
      · exact outside.1 none
      · omega
      · omega
    · rw [if_neg outside]
      constructor
      · intro read
        refine ⟨0, .inl ⟨?_, rfl⟩, (Except.ok.inj read).symm⟩
        by_cases zero : significand = 0
        · exact .inl zero
        · exact .inr (by omega)
      · rintro ⟨bits, ⟨-, rfl⟩ | ⟨moderate, -⟩, rfl⟩
        · rfl
        · omega
  · rw [if_neg far]
    have range : -0x80000000 < exponent ∧ exponent < 0x80000000 := by omega
    have notTiny : ¬exponent ≤ -0x80000000 := by omega
    have read {double : Double} := @Double.ofDecimal?_eq_some significand isNegative
      (before + exponent) double
    simp only [range, notTiny, or_false, true_and]
    constructor
    · intro same
      split at same
      · rename_i double known
        obtain ⟨bits, size, rfl⟩ := read.mp known
        exact ⟨bits, size, (Except.ok.inj same).symm⟩
      · cases same
    · rintro ⟨bits, size, rfl⟩
      rw [read.mpr ⟨bits, size, rfl⟩]

/-- The number that is written is the one that is read. -/
theorem gives_iff {number : Number} : decimal.Gives number ↔ decimal.number? = some number := by
  have double : ¬decimal.IsInteger → (decimal.number? = some number ↔
      ∃ bits, decimal.HasSize bits ∧
        number = .double (Double.signed decimal.isNegative bits)) := by
    intro other
    simp only [hasSize_iff]
    rw [number?, dif_neg other, Effect.except_toOption_eq_some, withExponent_eq_ok]
  constructor
  · rintro (⟨known, wide⟩ | @⟨bits, read, other, size, signed⟩)
    · rw [number?, dif_pos known]
    · refine (double other).mpr ⟨bits, size, ?_⟩
      have same : read = Double.signed decimal.isNegative bits := by
        rw [← Double.toNat_bits_signed size.lt] at signed
        cases read
        exact congrArg Double.mk (UInt64.toNat_inj.mp signed)
      rw [same]
  · intro read
    by_cases known : decimal.IsInteger
    · rw [number?, dif_pos known] at read
      obtain rfl := Option.some.inj read
      exact .integer known _
    · obtain ⟨bits, size, rfl⟩ := (double known).mp read
      exact .double known size (Double.toNat_bits_signed size.lt)

/-- A number with few digits before its point, counted with its power of ten, is in range. -/
theorem exists_gives (few : decimal.whole.characters.length + decimal.exponent ≤ 308) :
    ∃ number, decimal.Gives number := by
  by_cases known : decimal.IsInteger
  · exact ⟨_, .integer known (isWide_iff.mpr known.2.2.1)⟩
  suffices inRange : ∃ bits, decimal.HasSize bits by
    obtain ⟨bits, size⟩ := inRange
    exact ⟨_, .double known size (Double.toNat_bits_signed size.lt)⟩
  have some := List.length_pos_of_ne_nil decimal.whole.nonempty
  by_cases tiny : decimal.exponent ≤ -0x80000000
  · exact ⟨0, .vanishing tiny⟩
  have leads : decimal.Leads decimal.leading.1 decimal.leading.2 := leads_iff.mpr rfl
  generalize decimal.leading = leading at leads
  obtain ⟨significand, before⟩ := leading
  suffices scaled : ∃ bits, Double.IsScaled significand (before + decimal.exponent) bits by
    obtain ⟨bits, scaled⟩ := scaled
    exact ⟨bits, .scaled leads (by omega) scaled⟩
  obtain negative | positive := lt_or_ge (before + decimal.exponent) 0
  · exact ⟨_, Double.isScaled_iff.mpr (.inl ⟨negative, rfl⟩)⟩
  obtain ⟨exponent, isExponent⟩ := Int.eq_ofNat_of_zero_le positive
  obtain ⟨whole, fraction, isWhole, isFraction, rfl, rfl⟩ := leads
  have each : ∀ digit ∈ whole ++ fraction, isDigit digit = true := by
    rw [List.forall_mem_append]
    refine ⟨fun digit member => decimal.whole.isDigit_of_mem (isWhole.front.subset member),
      fun digit member => ?_⟩
    have inside := isFraction.front.subset member
    cases pointed : decimal.fraction with
    | none => simp [pointed] at inside
    | some digits =>
      rw [pointed] at inside
      exact digits.isDigit_of_mem inside
  have small := ofDigitChars_lt (whole ++ fraction) each 0
  rw [Nat.zero_add, Nat.one_mul, List.length_append] at small
  rw [isExponent]
  exact Double.exists_isScaled small.le (by omega)

end Grammar

/-- A number that is no integer is a double. -/
theorem toOption_withExponent_zero (isNegative : Bool) (significand : Nat) (before : Int) :
    (withExponent isNegative significand before 0).toOption =
      (Double.ofDecimal? isNegative significand before).map .double := by
  have small : ¬exponentLimit ≤ Int.natAbs 0 := by decide
  rw [withExponent, if_neg small, Int.add_zero]
  cases Double.ofDecimal? isNegative significand before <;> rfl

/-- Digits below the limit alone write an integer unless they go beyond the range of the sign. -/
theorem isInteger_iff (unpointed : decimal.fraction = none) (unscaled : decimal.power = none)
    (small : decimal.whole.number < wordLimit) :
    decimal.IsInteger ↔ ¬(decimal.isNegative = true ∧
      (decimal.whole.number = 0 ∨ 0x8000000000000000 < decimal.whole.number)) := by
  rw [wordLimit] at small
  simp only [IsInteger, unpointed, unscaled, true_and, integer]
  split
  · rename_i negative
    simp only [negative, true_and]
    omega
  · rename_i positive
    simp only [positive, false_and, not_false_eq_true, and_true, iff_true, Bool.false_eq_true]
    omega

/-- No digits above the limit write an integer. -/
theorem not_isInteger (large : wordLimit ≤ decimal.whole.number) : ¬decimal.IsInteger := by
  rintro ⟨-, -, range, -⟩
  rw [wordLimit] at large
  rw [integer] at range
  split at range <;> omega

/-- What digits alone lead to. -/
theorem leading_of_unpointed (unpointed : decimal.fraction = none) :
    decimal.leading = ((addDigits 0 0 decimal.whole.characters).1,
      (decimal.whole.characters.length : Int) - (addDigits 0 0 decimal.whole.characters).2) := by
  simp only [leading, unpointed]

/-- The numeral of digits alone is the number that they write. -/
theorem number?_of_digits (unpointed : decimal.fraction = none) (unscaled : decimal.power = none) :
    Numeral.number?
      { isNegative := decimal.isNegative, significand := decimal.leading.1,
        exponent := decimal.leading.2,
        isPlain := decide
          ((addDigits 0 0 decimal.whole.characters).2 = decimal.whole.characters.length) } =
      decimal.number? := by
  have double : ¬decimal.IsInteger → decimal.number? =
      (Double.ofDecimal? decimal.isNegative decimal.leading.1 decimal.leading.2).map .double := by
    intro other
    rw [number?, dif_neg other, exponent, unscaled]
    exact toOption_withExponent_zero _ _ _
  by_cases small : decimal.whole.number < wordLimit
  · have taken : addDigits 0 0 decimal.whole.characters =
        (decimal.whole.number, decimal.whole.characters.length) := addDigits_of_lt small
    have significand : decimal.leading.1 = decimal.whole.number := by
      rw [leading_of_unpointed unpointed, taken]
    rw [taken]
    by_cases integer : decimal.IsInteger
    · have inside := (isInteger_iff unpointed unscaled small).mp integer
      rw [number?, dif_pos integer, Numeral.number?]
      simp only [significand]
      rw [if_pos ⟨by simp, by rw [decide_eq_false inside]; rfl⟩]
      exact dif_pos (isWide_iff.mpr integer.2.2.1)
    · have outside := mt (isInteger_iff unpointed unscaled small).mpr integer
      rw [double integer, Numeral.number?]
      rw [if_neg (by simpa [significand] using outside)]
  · have partly : ¬(addDigits 0 0 decimal.whole.characters).2 =
        decimal.whole.characters.length := mt addDigits_full.mp small
    rw [double (not_isInteger (Nat.le_of_not_lt small)), Numeral.number?]
    rw [if_neg (by simp [partly])]

/-- Digits alone are read as the number that they write. -/
theorem digitsOnly_eq (unpointed : decimal.fraction = none) (unscaled : decimal.power = none) :
    (digitsOnly decimal.isNegative decimal.leading.1 (addDigits 0 0 decimal.whole.characters).2
        decimal.leading.2 decimal.whole.characters.length).toOption =
      decimal.number?.map fun number => (number, decimal.whole.characters.length) := by
  unfold digitsOnly
  dsimp only
  rw [number?_of_digits unpointed unscaled]
  cases decimal.number? <;> rfl

/-- A power or what follows it does not go on with the digits before. -/
theorem endsDigits_power {power : Option Power} (ends : EndsPower power rest) :
    EndsDigits ((power.map Power.characters).getD [] ++ rest) := by
  cases power with
  | none => exact ends.digits
  | some power =>
    rintro mark ⟨⟩
    obtain same | same := power.isLetter <;> rw [same] <;> rfl

/-- What follows the digits before the point does not go on with them. -/
theorem endsDigits_tail (ends : decimal.EndsBefore rest) : EndsDigits (decimal.tail ++ rest) := by
  rw [tail, List.append_assoc]
  cases decimal.fraction with
  | none => exact endsDigits_power ends.power
  | some digits =>
    rintro mark ⟨⟩
    rfl

/-- The digits after the point are read. -/
theorem lexFraction_append (digits : Digits) (ends : EndsDigits rest) (isNegative : Bool)
    (significand : Nat) (exponent : Int) (count : Nat) :
    lexFraction isNegative significand exponent count (digits.characters ++ rest) =
      lexScaled isNegative (addDigits significand 0 digits.characters).1
        (exponent - (addDigits significand 0 digits.characters).2)
        (count + digits.characters.length) rest := by
  unfold lexFraction
  dsimp only
  rw [digits.takeWhile_append ends, if_neg digits.nonempty, List.drop_left]

/-- A number with a point or a power of ten is a double. -/
theorem number?_of_scaled (other : ¬(decimal.fraction = none ∧ decimal.power = none)) :
    decimal.number? =
      (withExponent decimal.isNegative decimal.leading.1 decimal.leading.2
        decimal.exponent).toOption := by
  rw [number?, dif_neg]
  rintro ⟨unpointed, unscaled, -⟩
  exact other ⟨unpointed, unscaled⟩

/-- The leading digits of a number are read together with its power. -/
theorem toOption_lexScaled (ends : EndsPower decimal.power rest) (count : Nat)
    (other : ¬(decimal.fraction = none ∧ decimal.power = none)) :
    (lexScaled decimal.isNegative decimal.leading.1 decimal.leading.2 count
        ((decimal.power.map Power.characters).getD [] ++ rest)).toOption =
      decimal.number?.map fun number =>
        (number, count + ((decimal.power.map Power.characters).getD []).length) := by
  rw [lexScaled_append ends, number?_of_scaled other]
  change (Except.map _ (withExponent _ _ _ decimal.exponent)).toOption = _
  cases withExponent decimal.isNegative decimal.leading.1 decimal.leading.2 decimal.exponent <;> rfl

/-- Digits with neither a point nor a power after them are read alone. -/
theorem lexRest_of_plain (point : rest.head? ≠ some '.')
    (letter : ∀ mark ∈ rest.head?, ¬(mark = 'e' ∨ mark = 'E')) (isNegative : Bool)
    (whole : List Char) : lexRest isNegative whole rest =
      digitsOnly isNegative (addDigits 0 0 whole).1 (addDigits 0 0 whole).2
        ((whole.length : Int) - (addDigits 0 0 whole).2) whole.length := by
  cases rest with
  | nil => rfl
  | cons mark further =>
    have noPoint : mark ≠ '.' := fun same => point (by rw [same]; rfl)
    have other := letter mark rfl
    simp only [not_or] at other
    simp [lexRest, lexUnpointed, noPoint, other]

/-- What follows the digits before the point is read as it is written. -/
theorem lexRest_append (ends : decimal.EndsBefore rest) :
    (lexRest decimal.isNegative decimal.whole.characters (decimal.tail ++ rest)).toOption =
      decimal.number?.map fun number => (number, decimal.magnitude.length) := by
  cases pointed : decimal.fraction with
  | some digits =>
    have tail : decimal.tail ++ rest = '.' :: (digits.characters ++
        ((decimal.power.map Power.characters).getD [] ++ rest)) := by
      simp [Decimal.tail, pointed]
    have length : decimal.magnitude.length =
        decimal.whole.characters.length + 1 + digits.characters.length +
          ((decimal.power.map Power.characters).getD []).length := by
      simp [magnitude, Decimal.tail, pointed]
      omega
    have fraction : lexRest decimal.isNegative decimal.whole.characters (decimal.tail ++ rest) =
        lexScaled decimal.isNegative decimal.leading.1 decimal.leading.2
          (decimal.whole.characters.length + 1 + digits.characters.length)
          ((decimal.power.map Power.characters).getD [] ++ rest) := by
      rw [tail, leading, pointed]
      exact lexFraction_append digits (endsDigits_power ends.power) _ _ _ _
    rw [fraction, toOption_lexScaled ends.power _ (by simp [pointed]), length]
  | none =>
    have tail : decimal.tail = (decimal.power.map Power.characters).getD [] := by
      simp [Decimal.tail, pointed]
    have leads := leading_of_unpointed pointed
    rw [magnitude, List.length_append, tail]
    cases scaled : decimal.power with
    | some power =>
      have read := toOption_lexScaled ends.power decimal.whole.characters.length (by simp [scaled])
      rw [scaled, leads] at read
      rw [← read]
      obtain same | same := power.isLetter <;> simp [Power.characters, same, lexRest, lexUnpointed]
    | none =>
      have read := digitsOnly_eq pointed scaled
      rw [leads] at read
      simp only [Option.map_none, Option.getD_none, List.nil_append, List.length_nil, Nat.add_zero]
      rw [lexRest_of_plain (ends.point pointed scaled) (ends.power.letter scaled), read]

/-- A number is read as far as it goes, if it ends before what follows. -/
theorem toOption_lexMagnitude (ends : decimal.EndsBefore rest) :
    (lexMagnitude decimal.isNegative (decimal.magnitude ++ rest)).toOption =
      decimal.number?.map fun number => (number, decimal.magnitude.length) := by
  have taken := decimal.whole.takeWhile_append (endsDigits_tail ends)
  obtain ⟨first, further, whole, digit⟩ := decimal.whole.exists_cons
  have single : ¬(first = '0' ∧
      ((further ++ (decimal.tail ++ rest)).head?.map isDigit).getD false = true) := by
    rintro ⟨rfl, more⟩
    obtain rfl : further = [] := by
      have alone := decimal.short (by rw [whole]; rfl)
      rw [whole] at alone
      exact (List.cons.inj alone).2
    cases following : decimal.tail ++ rest with
    | nil =>
      rw [following] at more
      cases more
    | cons mark others =>
      have stops := endsDigits_tail ends mark (by rw [following]; rfl)
      rw [following] at more
      simp [stops] at more
  have read := lexRest_append ends
  rw [magnitude, List.append_assoc]
  rw [whole, List.cons_append] at taken ⊢
  rw [lexMagnitude_cons, digit, if_neg (by simp), if_neg single]
  dsimp only
  rw [taken, ← List.cons_append, List.drop_left, ← whole, read, magnitude]

/-- A number is read as what it writes, if it ends before what follows. -/
theorem lexMagnitude_append {number : Number} (value : decimal.Gives number)
    (ends : decimal.EndsBefore rest) :
    lexMagnitude decimal.isNegative (decimal.magnitude ++ rest) =
      .ok (number, decimal.magnitude.length) := by
  have read := toOption_lexMagnitude ends
  rw [gives_iff.mp value] at read
  exact Effect.except_toOption_eq_some.mp read

end Decimal

/-- What is read after the digits before the point is digits after it and a power, or one of them,
or nothing. -/
theorem exists_tail {isNegative : Bool} {whole : List Char} {result : Number × Nat}
    (ends : EndsDigits characters) (read : lexRest isNegative whole characters = .ok result) :
    ∃ (fraction : Option Digits) (power : Option Power) (rest : List Char),
      characters = (fraction.map fun digits => '.' :: digits.characters).getD [] ++
        (power.map Power.characters).getD [] ++ rest ∧
      EndsPower power rest ∧ (fraction = none → power = none → rest.head? ≠ some '.') := by
  by_cases point : characters.head? = some '.'
  · obtain ⟨further, rfl⟩ := List.head?_eq_some_iff.mp point
    change lexFraction isNegative _ _ _ further = .ok result at read
    have begins : further.takeWhile isDigit ≠ [] := by
      intro nothing
      rw [lexFraction, nothing] at read
      cases read
    obtain ⟨digits, rest, rfl, stops⟩ := Digits.exists_front begins
    rw [Decimal.lexFraction_append digits stops] at read
    obtain ⟨power, last, rfl, complete⟩ := exists_power stops read
    exact ⟨some digits, power, last, by simp, complete, by simp⟩
  · by_cases letter : ∃ mark ∈ characters.head?, mark = 'e' ∨ mark = 'E'
    · have scaled : ∃ significand before count,
          lexScaled isNegative significand before count characters = .ok result := by
        obtain ⟨mark, first, isLetter⟩ := letter
        obtain ⟨further, rfl⟩ := List.head?_eq_some_iff.mp first
        obtain rfl | rfl := isLetter <;> exact ⟨_, _, _, read⟩
      obtain ⟨significand, before, count, read⟩ := scaled
      obtain ⟨power, rest, rfl, complete⟩ := exists_power ends read
      refine ⟨none, power, rest, rfl, complete, fun _ unscaled => ?_⟩
      rw [unscaled] at point
      exact point
    · exact ⟨none, none, characters, rfl,
        ⟨ends, fun _ mark first isLetter => letter ⟨mark, first, isLetter⟩⟩, fun _ _ => point⟩

/-- What is read as a number is one that ends before what follows. -/
theorem exists_decimal {isNegative : Bool} {result : Number × Nat}
    (read : lexMagnitude isNegative characters = .ok result) :
    ∃ (decimal : Decimal) (rest : List Char), decimal.isNegative = isNegative ∧
      characters = decimal.magnitude ++ rest ∧ decimal.EndsBefore rest := by
  cases characters with
  | nil => cases read
  | cons first after =>
    rw [lexMagnitude_cons] at read
    split at read
    · cases read
    split at read
    · cases read
    rename_i digit single
    have begins : (first :: after).takeWhile isDigit ≠ [] := by
      rw [List.takeWhile_cons, if_pos (by simpa using digit)]
      simp
    obtain ⟨whole, rest, front, stops⟩ := Digits.exists_front begins
    have short : whole.characters.head? = some '0' → whole.characters = ['0'] := by
      intro zero
      obtain ⟨further, digits⟩ := List.head?_eq_some_iff.mp zero
      rw [digits, List.cons_append] at front
      obtain ⟨rfl, rfl⟩ := List.cons.inj front
      cases further with
      | nil => exact digits
      | cons second others =>
        have more := whole.isDigit_of_mem (by simp [digits] : second ∈ whole.characters)
        exact absurd ⟨rfl, by simp [more]⟩ single
    rw [front] at read
    dsimp only at read
    rw [whole.takeWhile_append stops, List.drop_left] at read
    obtain ⟨fraction, power, last, rfl, complete, point⟩ := exists_tail stops read
    refine ⟨⟨isNegative, whole, short, fraction, power⟩, last, rfl, ?_, complete, point⟩
    simpa [Decimal.magnitude, Decimal.tail] using front

/-- What is read as a number writes it. -/
theorem exists_of_lexMagnitude {isNegative : Bool} {number : Number} {count : Nat}
    (read : lexMagnitude isNegative characters = .ok (number, count)) :
    ∃ (decimal : Decimal) (rest : List Char), decimal.isNegative = isNegative ∧
      characters = decimal.magnitude ++ rest ∧ count = decimal.magnitude.length ∧
      decimal.Gives number := by
  obtain ⟨decimal, rest, rfl, rfl, ends⟩ := exists_decimal read
  have taken := Decimal.toOption_lexMagnitude ends
  rw [read] at taken
  obtain ⟨value, known, same⟩ := Option.map_eq_some_iff.mp taken.symm
  obtain ⟨rfl, rfl⟩ := Prod.mk.inj same
  exact ⟨decimal, rest, rfl, rfl, rfl, Decimal.gives_iff.mpr known⟩

section Integers

variable {number : Nat} {value : Int}

/-- The digits of a number are digits. -/
theorem isDigit_of_mem_toDigits {digit : Char} (member : digit ∈ Nat.toDigits 10 number) :
    isDigit digit = true := by
  have known := Nat.isDigit_of_mem_toDigits (by decide) (by decide) member
  simpa [Char.isDigit, isDigit, Char.le_def] using known

/-- A number begins with a zero only if it is one. -/
theorem head?_toDigits_ne (positive : 0 < number) : (Nat.toDigits 10 number).head? ≠ some '0' := by
  induction number using Nat.strongRecOn with
  | _ number ih =>
    by_cases small : number < 10
    · rw [Nat.toDigits_of_lt_base small]
      have each : ∀ digit < 10, 0 < digit → Nat.digitChar digit ≠ '0' := by decide
      simpa using each number small positive
    · have large : 10 ≤ number := Nat.le_of_not_lt small
      have first := ih (number / 10) (by omega) (by omega)
      rw [Nat.toDigits_of_base_le (by decide) large,
        List.head?_append_of_ne_nil _ Nat.toDigits_ne_nil]
      exact first

/-- The characters of an integer are its digits, with a minus sign before them if it is negative. -/
theorem toList_toString (value : Int) : (toString value).toList =
    (if value < 0 then ['-'] else []) ++ Nat.toDigits 10 value.natAbs := by
  cases value with
  | ofNat number =>
    have shown : toString (Int.ofNat number) = toString number := rfl
    rw [shown, Nat.toString_eq_ofList_toDigits, String.toList_ofList, if_neg (by simp)]
    rfl
  | negSucc number =>
    have shown : toString (Int.negSucc number) = "-" ++ toString (number + 1) := rfl
    rw [shown, String.toList_append, Nat.toString_eq_ofList_toDigits,
      if_pos (Int.negSucc_lt_zero number)]
    simp only [String.toList_ofList]
    rfl

/-- Digits without a zero in front that makes no difference are those of their number. -/
theorem toDigits_ofDigitChars (digits : List Char) (nonempty : digits ≠ [])
    (each : ∀ digit ∈ digits, isDigit digit = true)
    (short : digits.head? = some '0' → digits = ['0']) :
    Nat.toDigits 10 (Nat.ofDigitChars 10 digits 0) = digits := by
  induction digits using List.reverseRecOn with
  | nil => exact absurd rfl nonempty
  | append_singleton front last ih =>
    obtain ⟨below, shown⟩ := digitChar_digitValue (each last (by simp))
    have value : Nat.ofDigitChars 10 (front ++ [last]) 0 =
        10 * Nat.ofDigitChars 10 front 0 + digitValue last := by
      rw [Nat.ofDigitChars_append, Nat.ofDigitChars_cons, Nat.ofDigitChars_nil]
      rfl
    by_cases alone : front = []
    · rw [value, alone, Nat.ofDigitChars_nil, Nat.mul_zero, Nat.zero_add,
        Nat.toDigits_of_lt_base below, shown]
      rfl
    · have nonzero : front.head? ≠ some '0' := by
        intro zero
        have whole := short (by rw [List.head?_append_of_ne_nil _ alone, zero])
        obtain ⟨rfl, -⟩ := List.append_inj' (whole.trans (List.nil_append _).symm) rfl
        exact alone rfl
      have digits := ih alone (fun digit member => each digit (List.mem_append_left _ member))
        fun zero => absurd zero nonzero
      have positive : 0 < Nat.ofDigitChars 10 front 0 := by
        refine Nat.pos_of_ne_zero fun zero => nonzero ?_
        rw [← digits, zero]
        rfl
      rw [value, ← Nat.toDigits_append_toDigits (by decide) positive below, digits,
        Nat.toDigits_of_lt_base below, shown]

/-- The digits of a number, as they are written. -/
def Digits.of (number : Nat) : Digits where
  characters := Nat.toDigits 10 number
  nonempty := Nat.toDigits_ne_nil
  each _ := isDigit_of_mem_toDigits

/-- The digits of a number do not begin with a zero that makes no difference. -/
theorem Digits.short_of (number : Nat) (zero : (Digits.of number).characters.head? = some '0') :
    (Digits.of number).characters = ['0'] := by
  have none : number = 0 := by
    by_contra nonzero
    exact head?_toDigits_ne (Nat.pos_of_ne_zero nonzero) zero
  rw [none]
  rfl

/-- Only integers are written as such. -/
theorem Decimal.number?_eq_integer {decimal : Decimal} (wide : isWide value = true) :
    decimal.number? = some (.integer value wide) ↔
      decimal.IsInteger ∧ decimal.integer = value := by
  rw [number?]
  split
  · rename_i integer
    simp [integer]
  · rename_i other
    refine iff_of_false (fun read => ?_) fun both => other both.1
    have double := Effect.except_toOption_eq_some.mp read
    unfold withExponent at double
    split at double
    · split at double <;> cases double
    · split at double <;> cases double

/-- An integer is written in one way only. -/
theorem writesNumber_integer_iff {core : List Char} (wide : isWide value = true) :
    WritesNumber core (.integer value wide) ↔ core = (toString value).toList := by
  rw [toList_toString]
  constructor
  · rintro ⟨decimal, rfl, known⟩
    obtain ⟨⟨unpointed, unscaled, -, visible⟩, rfl⟩ :=
      (Decimal.number?_eq_integer wide).mp (Decimal.gives_iff.mp known)
    have digits : Nat.toDigits 10 decimal.whole.number = decimal.whole.characters :=
      toDigits_ofDigitChars _ decimal.whole.nonempty decimal.whole.each decimal.short
    have tail : decimal.tail = [] := by simp [Decimal.tail, unpointed, unscaled]
    rw [Decimal.characters, Decimal.magnitude, tail, List.append_nil, ← digits, Decimal.integer]
    cases negative : decimal.isNegative with
    | false => simp
    | true =>
      have positive : 0 < decimal.whole.number := by
        simpa [negative, Nat.pos_iff_ne_zero] using visible
      simp [positive]
  · rintro rfl
    let decimal : Decimal :=
      ⟨decide (value < 0), Digits.of value.natAbs, Digits.short_of _, none, none⟩
    have number : decimal.whole.number = value.natAbs := Nat.ofDigitChars_ten_toDigits
    have integer : decimal.integer = value := by
      rw [Decimal.integer, number]
      simp only [decimal, decide_eq_true_eq]
      split <;> omega
    refine ⟨decimal, ?_, Decimal.gives_iff.mpr
      ((Decimal.number?_eq_integer wide).mpr ⟨⟨rfl, rfl, ?_, ?_⟩, integer⟩)⟩
    · simp [Decimal.characters, Decimal.magnitude, Decimal.tail, decimal, Digits.of]
    · rw [integer]
      exact isWide_iff.mp wide
    · rw [number]
      simp only [decimal, decide_eq_true_eq]
      omega

/-- A value is an integer exactly if it is written as one, in the only way. -/
theorem writes_integer_iff {room : Nat} {core : List Char} (wide : isWide value = true) :
    Writes room core (.number (.integer value wide)) ↔ core = (toString value).toList := by
  rw [← writesNumber_integer_iff wide]
  constructor
  · rintro (_ | _ | _ | ⟨_, written⟩)
    exact written
  · exact .number room

end Integers

end DecompileServer.Json

import DecompileServer.Proofs.Json.Grammar
import Mathlib.Algebra.Order.Field.Basic
import Mathlib.Data.Nat.Log
import Mathlib.Tactic.FieldSimp
import Mathlib.Tactic.Linarith
import Mathlib.Tactic.Positivity
import Mathlib.Tactic.Ring

/-!
# Doubles

The bits of doubles without a sign are in the order of their numbers (`magnitude_strictMono`), so
the nearest ones to a number are on either side of it, and which of the two it is can be decided on
natural numbers (`isNearest_iff`). The arithmetic of the reader rounds to the nearest double at each
step, which is what the grammar asks for (`ofDecimal?_eq_some`).
-/
namespace DecompileServer.Json.Double

section Units

variable {exponent fraction shift part bits count : Nat}

/-- The units of an exponent and a fraction. -/
theorem units_fields (small : fraction < hiddenBit) :
    units (exponent * hiddenBit + fraction) =
      if exponent = 0 then fraction else (hiddenBit + fraction) * 2 ^ (exponent - 1) := by
  have positive : 0 < hiddenBit := by decide
  have quotient : (exponent * hiddenBit + fraction) / hiddenBit = exponent := by
    rw [Nat.mul_comm, Nat.mul_add_div positive, Nat.div_eq_of_lt small, Nat.add_zero]
  have remainder : (exponent * hiddenBit + fraction) % hiddenBit = fraction := by
    rw [Nat.mul_comm, Nat.mul_add_mod, Nat.mod_eq_of_lt small]
  simp only [units, quotient, remainder, Nat.pow_eq]

/-- The units of a part with a power of two, which need not have the hidden bit if it has no power. -/
theorem units_normal (least : shift = 0 ∨ hiddenBit ≤ part) (most : part ≤ 2 * hiddenBit) :
    units (shift * hiddenBit + part) = part * 2 ^ shift := by
  obtain small | large := Nat.lt_or_ge part hiddenBit
  · obtain rfl : shift = 0 := by omega
    rw [units_fields small, if_pos rfl, pow_zero, Nat.mul_one]
  obtain fits | full := Nat.lt_or_eq_of_le most
  · have fields : shift * hiddenBit + part = (shift + 1) * hiddenBit + (part - hiddenBit) := by
      rw [Nat.add_mul]
      omega
    rw [fields, units_fields (by omega), if_neg (Nat.succ_ne_zero shift),
      Nat.add_sub_cancel' large, Nat.add_sub_cancel]
  · -- The greatest part is the least one with the next power.
    have fields : shift * hiddenBit + part = (shift + 2) * hiddenBit + 0 := by
      rw [full, Nat.add_mul, Nat.add_zero]
    rw [fields, units_fields (by decide), if_neg (Nat.succ_ne_zero _), full, Nat.add_zero,
      Nat.mul_comm 2, Nat.mul_assoc, ← pow_succ']
    rfl

/-- Bits are a part with a power of two. -/
theorem exists_normal (bits : Nat) : ∃ shift part, bits = shift * hiddenBit + part ∧
    (shift = 0 ∨ hiddenBit ≤ part) ∧ part < 2 * hiddenBit := by
  refine ⟨bits / hiddenBit - 1, bits - (bits / hiddenBit - 1) * hiddenBit, ?_⟩
  unfold hiddenBit
  omega

/-- Greater bits have more units. -/
theorem units_strictMono : StrictMono units := by
  refine strictMono_nat_of_lt_succ fun bits => ?_
  obtain ⟨shift, part, rfl, least, most⟩ := exists_normal bits
  have next : shift = 0 ∨ hiddenBit ≤ part + 1 := least.imp_right (Nat.le_add_right_of_le ·)
  rw [Nat.add_assoc, units_normal least most.le, units_normal next most]
  exact Nat.mul_lt_mul_of_pos_right (Nat.lt_succ_self part) (Nat.two_pow_pos shift)

/-- A number of units is between those of neighbours. -/
theorem units_below (count : Nat) :
    units (below count) ≤ count ∧ count < units (below count + 1) := by
  obtain ⟨shift, isShift⟩ : ∃ shift, shift = count.log2 - 52 := ⟨_, rfl⟩
  have positive : 0 < 2 ^ shift := Nat.two_pow_pos shift
  have most : count / 2 ^ shift < 2 * hiddenBit := by
    rw [Nat.div_lt_iff_lt_mul positive]
    calc count < 2 ^ (count.log2 + 1) := Nat.lt_log2_self
      _ ≤ 2 ^ (53 + shift) := Nat.pow_le_pow_right (by decide) (by omega)
      _ = 2 * hiddenBit * 2 ^ shift := Nat.pow_add 2 53 shift
  have least : shift = 0 ∨ hiddenBit ≤ count / 2 ^ shift := by
    refine (Nat.eq_zero_or_pos shift).imp_right fun scaled => ?_
    have nonzero : count ≠ 0 := by
      rintro rfl
      simp [isShift] at scaled
    rw [Nat.le_div_iff_mul_le positive]
    calc hiddenBit * 2 ^ shift = 2 ^ (52 + shift) := (Nat.pow_add 2 52 shift).symm
      _ = 2 ^ count.log2 := by rw [isShift, Nat.add_sub_cancel' (by omega)]
      _ ≤ count := Nat.log2_self_le nonzero
  have next : shift = 0 ∨ hiddenBit ≤ count / 2 ^ shift + 1 :=
    least.imp_right (Nat.le_add_right_of_le ·)
  have known : below count = shift * hiddenBit + count / 2 ^ shift := by
    rw [below, isShift, Nat.pow_eq]
  rw [known, Nat.add_assoc, units_normal least most.le, units_normal next most]
  exact ⟨Nat.div_mul_le_self count _, Nat.lt_mul_of_div_lt (Nat.lt_succ_self _) positive⟩

/-- A number is its units. -/
theorem magnitude_eq (bits : Nat) : magnitude bits = units bits / 2 ^ 1074 := by
  have unit : (2 : ℚ) ^ (-1074 : ℤ) = (2 ^ 1074)⁻¹ := by
    rw [zpow_neg]
    rfl
  have hidden : hiddenBit = 2 ^ 52 := rfl
  simp only [magnitude, units, hidden, Nat.pow_eq]
  by_cases plain : bits / 2 ^ 52 = 0
  · rw [if_pos plain, if_pos plain, unit, div_eq_mul_inv]
  · have power : ((bits / 2 ^ 52 : Nat) : ℤ) - 1075 = (bits / 2 ^ 52 - 1 : Nat) + -1074 := by omega
    rw [if_neg plain, if_neg plain, power, zpow_add₀ two_ne_zero, unit, zpow_natCast, ← mul_assoc,
      ← div_eq_mul_inv]
    push_cast
    rfl

/-- Greater bits are greater numbers. -/
theorem magnitude_strictMono : StrictMono magnitude := by
  intro left right less
  rw [magnitude_eq, magnitude_eq]
  exact div_lt_div_of_pos_right (Nat.cast_lt.mpr (units_strictMono less)) (by positivity)

end Units

section Nearest

variable {exact : ℚ} {lower bits other : Nat}

/-- The number below is that far away. -/
theorem distance_lower (least : magnitude lower ≤ exact) :
    |magnitude lower - exact| = exact - magnitude lower := by
  rw [abs_of_nonpos (sub_nonpos.mpr least), neg_sub]

/-- The number above is that far away. -/
theorem distance_upper (most : exact ≤ magnitude bits) :
    |magnitude bits - exact| = magnitude bits - exact :=
  abs_of_nonneg (sub_nonneg.mpr most)

/-- Nearest bits are at least as near as all others. -/
theorem IsNearest.le (nearest : IsNearest exact bits) (other : Nat) :
    |magnitude bits - exact| ≤ |magnitude other - exact| := by
  by_cases same : other = bits
  · rw [same]
  · exact (nearest other same).elim le_of_lt fun equal => equal.1.le

/-- Nearest bits do not go beyond a number that is no less. -/
theorem IsNearest.le_of_le (nearest : IsNearest exact bits) (bound : exact ≤ magnitude other) :
    bits ≤ other := by
  by_contra beyond
  have greater := magnitude_strictMono (Nat.lt_of_not_le beyond)
  have near := nearest.le other
  rw [distance_upper bound, distance_upper (bound.trans greater.le)] at near
  linarith

/-- Nearest bits do not go below a number that is no greater. -/
theorem IsNearest.ge_of_ge (nearest : IsNearest exact bits) (bound : magnitude other ≤ exact) :
    other ≤ bits := by
  by_contra beyond
  have less := magnitude_strictMono (Nat.lt_of_not_le beyond)
  have near := nearest.le other
  rw [distance_lower bound, distance_lower (less.le.trans bound)] at near
  linarith

/-- Nearest bits are on either side of a number. -/
theorem IsNearest.eq_or_eq (nearest : IsNearest exact bits) (least : magnitude lower ≤ exact)
    (most : exact < magnitude (lower + 1)) : bits = lower ∨ bits = lower + 1 := by
  have above := nearest.ge_of_ge least
  have below := nearest.le_of_le most.le
  omega

/-- All but the two sides of a number are farther away than one of them. -/
theorem lt_distance (least : magnitude lower ≤ exact) (most : exact < magnitude (lower + 1))
    (notLower : other ≠ lower) (notUpper : other ≠ lower + 1) :
    exact - magnitude lower < |magnitude other - exact| ∨
      magnitude (lower + 1) - exact < |magnitude other - exact| := by
  obtain before | after : other < lower ∨ lower + 1 < other := by omega
  · have less := magnitude_strictMono before
    rw [distance_lower (less.le.trans least)]
    exact .inl (by linarith)
  · have greater := magnitude_strictMono after
    rw [distance_upper (most.trans greater).le]
    exact .inr (by linarith)

/-- The number below is the nearest one if it is nearer than the one above, or as near and even. -/
theorem isNearest_lower (least : magnitude lower ≤ exact) (most : exact < magnitude (lower + 1)) :
    IsNearest exact lower ↔ 2 * exact < magnitude lower + magnitude (lower + 1) ∨
      2 * exact = magnitude lower + magnitude (lower + 1) ∧ lower % 2 = 0 := by
  constructor
  · intro nearest
    have side := nearest (lower + 1) (Nat.succ_ne_self lower)
    rw [distance_lower least, distance_upper most.le] at side
    exact side.imp (fun nearer => by linarith) (.imp_left fun equal => by linarith)
  · intro side other different
    rw [distance_lower least]
    by_cases isUpper : other = lower + 1
    · rw [isUpper, distance_upper most.le]
      exact side.imp (fun nearer => by linarith) (.imp_left fun equal => by linarith)
    · left
      have near : exact - magnitude lower ≤ magnitude (lower + 1) - exact := by
        obtain nearer | ⟨equal, -⟩ := side <;> linarith
      exact (lt_distance least most different isUpper).elim id near.trans_lt

/-- The number above is the nearest one if it is nearer than the one below, or as near and even. -/
theorem isNearest_upper (least : magnitude lower ≤ exact) (most : exact < magnitude (lower + 1)) :
    IsNearest exact (lower + 1) ↔ magnitude lower + magnitude (lower + 1) < 2 * exact ∨
      2 * exact = magnitude lower + magnitude (lower + 1) ∧ (lower + 1) % 2 = 0 := by
  constructor
  · intro nearest
    have side := nearest lower (Nat.succ_ne_self lower).symm
    rw [distance_lower least, distance_upper most.le] at side
    exact side.imp (fun nearer => by linarith) (.imp_left fun equal => by linarith)
  · intro side other different
    rw [distance_upper most.le]
    by_cases isLower : other = lower
    · rw [isLower, distance_lower least]
      exact side.imp (fun nearer => by linarith) (.imp_left fun equal => by linarith)
    · left
      have near : magnitude (lower + 1) - exact ≤ exact - magnitude lower := by
        obtain nearer | ⟨equal, -⟩ := side <;> linarith
      exact (lt_distance least most isLower different).elim near.trans_lt id

/-- A fraction of units lies between the number found below it and the next one. -/
theorem magnitude_below {ratio : Ratio} (positive : 0 < ratio.denominator) :
    magnitude (below (ratio.numerator / ratio.denominator)) ≤
        ratio.numerator / ratio.denominator / 2 ^ 1074 ∧
      (ratio.numerator / ratio.denominator / 2 ^ 1074 : ℚ) <
        magnitude (below (ratio.numerator / ratio.denominator) + 1) := by
  have divisor : (0 : ℚ) < ratio.denominator := Nat.cast_pos.mpr positive
  obtain ⟨under, beyond⟩ := units_below (ratio.numerator / ratio.denominator)
  rw [magnitude_eq, magnitude_eq]
  constructor
  · refine div_le_div_of_nonneg_right ?_ (by positivity)
    rw [le_div_iff₀ divisor]
    exact_mod_cast (Nat.le_div_iff_mul_le positive).mp under
  · refine div_lt_div_of_pos_right ?_ (by positivity)
    rw [div_lt_iff₀ divisor]
    exact_mod_cast (Nat.div_lt_iff_lt_mul positive).mp beyond

/-- Twice a fraction of units and the sum of two numbers are natural numbers with a common divisor. -/
theorem exists_divisor {ratio : Ratio} (positive : 0 < ratio.denominator) (lower : Nat) :
    ∃ divisor : ℚ, 0 < divisor ∧
      2 * (ratio.numerator / ratio.denominator / 2 ^ 1074 : ℚ) =
        (2 * ratio.numerator : Nat) / divisor ∧
      magnitude lower + magnitude (lower + 1) =
        (ratio.denominator * (units lower + units (lower + 1)) : Nat) / divisor := by
  have some : (0 : ℚ) < ratio.denominator := Nat.cast_pos.mpr positive
  refine ⟨ratio.denominator * 2 ^ 1074, by positivity, ?_, ?_⟩
  · push_cast
    rw [div_div, mul_div_assoc]
  · rw [magnitude_eq, magnitude_eq]
    push_cast
    rw [mul_div_mul_left _ _ some.ne', add_div]

/-- The nearest bits to a fraction of units can be found on natural numbers. -/
theorem isNearest_iff {ratio : Ratio} (positive : 0 < ratio.denominator) :
    IsNearest (ratio.numerator / ratio.denominator / 2 ^ 1074) bits ↔ bits = nearest ratio := by
  obtain ⟨least, most⟩ := magnitude_below positive
  have around := isNearest_lower least most
  have beyond := isNearest_upper least most
  -- Twice the fraction is compared with the middle over their common divisor.
  obtain ⟨divisor, some, doubled, middle⟩ :=
    exists_divisor positive (below (ratio.numerator / ratio.denominator))
  rw [doubled, middle, div_lt_div_iff_of_pos_right some, div_left_inj' some.ne', Nat.cast_lt,
    Nat.cast_inj] at around beyond
  rw [nearest]
  constructor
  · intro isNearest
    obtain rfl | rfl := isNearest.eq_or_eq least most
    · rw [if_pos (around.mp isNearest)]
    · have side := beyond.mp isNearest
      rw [if_neg (by omega)]
  · split
    · rintro rfl
      exact around.mpr ‹_›
    · rintro rfl
      exact beyond.mpr (by omega)

end Nearest

section Operations

variable {number exponent left right value divisor bits significand : Nat}

/-- The bits of one. -/
theorem magnitude_one : magnitude 0x3FF0000000000000 = 1 := by
  norm_num [magnitude]

/-- The number of units in one. -/
theorem cast_one : (one : ℚ) = 2 ^ 1074 := by
  have known := magnitude_one
  rw [magnitude_eq, div_eq_one_iff_eq (by positivity)] at known
  exact known

/-- One has units. -/
theorem one_pos : 0 < one :=
  Nat.zero_lt_of_lt (units_strictMono (Nat.zero_lt_succ 0x3FEFFFFFFFFFFFFF))

/-- A natural number is rounded. -/
theorem isNearest_natCast : IsNearest number bits ↔ bits = ofNat number := by
  rw [ofNat, ← isNearest_iff Nat.one_pos]
  have exact : ((number * one : Nat) : ℚ) / (1 : Nat) / 2 ^ 1074 = number := by
    rw [Nat.cast_mul, cast_one, Nat.cast_one, div_one, mul_div_cancel_right₀ _ (by positivity)]
  rw [exact]

/-- A power of ten is rounded. -/
theorem isNearest_powerOfTen : IsNearest (10 ^ exponent) bits ↔ bits = powerOfTen exponent := by
  rw [powerOfTen, ← isNearest_natCast]
  norm_cast

/-- A product is rounded. -/
theorem isNearest_product :
    IsNearest (magnitude left * magnitude right) bits ↔ bits = product left right := by
  have rounds := @isNearest_iff bits ⟨units left * units right, one⟩ one_pos
  rw [product, ← rounds, magnitude_eq, magnitude_eq, Nat.cast_mul, cast_one, div_mul_div_comm,
    div_div]

/-- A quotient is rounded. -/
theorem isNearest_quotient (positive : 0 < units divisor) :
    IsNearest (magnitude value / magnitude divisor) bits ↔ bits = quotient value divisor := by
  have exact : ∀ unit : ℚ, unit ≠ 0 →
      units value / unit / (units divisor / unit) = units value * unit / units divisor / unit := by
    intro unit nonzero
    field_simp
  rw [quotient, ← isNearest_iff positive, magnitude_eq, magnitude_eq, Nat.cast_mul, cast_one,
    exact _ (by positivity)]

/-- A power of ten is no less than one. -/
theorem one_le_magnitude_powerOfTen (exponent : Nat) : 1 ≤ magnitude (powerOfTen exponent) := by
  have nearest : IsNearest (10 ^ exponent) (powerOfTen exponent) := isNearest_powerOfTen.mpr rfl
  have bound : magnitude 0x3FF0000000000000 ≤ 10 ^ exponent := by
    rw [magnitude_one]
    exact one_le_pow₀ (by norm_num)
  rw [← magnitude_one]
  exact magnitude_strictMono.monotone (nearest.ge_of_ge bound)

/-- A power of ten is positive. -/
theorem units_powerOfTen_pos (exponent : Nat) : 0 < units (powerOfTen exponent) := by
  have bound := one_le_magnitude_powerOfTen exponent
  rw [magnitude_eq] at bound
  by_contra none
  rw [Nat.eq_zero_of_not_pos none, Nat.cast_zero, zero_div] at bound
  exact absurd bound (by decide)

/-- The number of no bits is zero. -/
theorem magnitude_zero : magnitude 0 = 0 := by
  norm_num [magnitude]

/-- Zero is its own nearest double. -/
theorem isNearest_zero : IsNearest 0 0 := by
  intro other different
  have greater := magnitude_strictMono (Nat.pos_of_ne_zero different)
  rw [magnitude_zero] at greater ⊢
  rw [sub_zero, sub_zero, abs_zero]
  exact .inl (abs_pos.mpr greater.ne')

/-- Zero is the number with no bits, and no other integer is. -/
theorem ofNat_eq_zero : ofNat number = 0 ↔ number = 0 := by
  constructor
  · intro none
    by_contra positive
    have nearest : IsNearest number (ofNat number) := isNearest_natCast.mpr rfl
    have bound : magnitude 0x3FF0000000000000 ≤ number := by
      rw [magnitude_one]
      exact_mod_cast Nat.pos_of_ne_zero positive
    have least := nearest.ge_of_ge bound
    omega
  · rintro rfl
    refine (isNearest_natCast.mp ?_).symm
    rw [Nat.cast_zero]
    exact isNearest_zero

/-- Zero over a power of ten is zero. -/
theorem quotient_zero : quotient 0 (powerOfTen exponent) = 0 := by
  refine ((isNearest_quotient (units_powerOfTen_pos exponent)).mp ?_).symm
  rw [magnitude_zero, zero_div]
  exact isNearest_zero

/-- Zero times a power of ten is zero. -/
theorem product_zero : product 0 right = 0 := by
  refine (isNearest_product.mp ?_).symm
  rw [magnitude_zero, zero_mul]
  exact isNearest_zero

/-- Zero stays so. -/
theorem divideByPower_zero (exponent : Nat) : divideByPower 0 exponent = 0 := by
  rw [divideByPower]
  split
  · exact quotient_zero
  · rw [if_pos rfl]

/-- A power that is too large is divided by the greatest one first, and zero too. -/
theorem divideByPower_of_lt (large : 308 < exponent) :
    divideByPower value exponent =
      divideByPower (quotient value (powerOfTen 308)) (exponent - 308) := by
  by_cases none : value = 0
  · rw [none, quotient_zero, divideByPower_zero, divideByPower_zero]
  · have tooLarge : ¬exponent ≤ greatestExponent := Nat.not_le_of_lt large
    rw [divideByPower, if_neg tooLarge, if_neg none]
    rfl

/-- A power that is a double is divided by at once. -/
theorem divideByPower_of_le (small : exponent ≤ 308) :
    divideByPower value exponent = quotient value (powerOfTen exponent) := by
  have fits : exponent ≤ greatestExponent := small
  rw [divideByPower, if_pos fits]

/-- A number over a power of ten is what the reader finds. -/
theorem isShrunk_iff : IsShrunk value exponent bits ↔ bits = divideByPower value exponent := by
  have rounds {value exponent bits : Nat} :
      IsNearest (magnitude value / magnitude (powerOfTen exponent)) bits ↔
        bits = quotient value (powerOfTen exponent) :=
    isNearest_quotient (units_powerOfTen_pos exponent)
  constructor
  · intro shrunk
    induction shrunk with
    | last small isPower rounded =>
      rw [isNearest_powerOfTen.mp isPower, rounds] at rounded
      rw [divideByPower_of_le small, rounded]
    | further large isPower rounded _ ih =>
      rw [isNearest_powerOfTen.mp isPower, rounds] at rounded
      rw [divideByPower_of_lt large, ← rounded, ih]
  · rintro rfl
    induction exponent using Nat.strongRecOn generalizing value with
    | _ exponent ih =>
      obtain large | small := Nat.lt_or_ge 308 exponent
      · rw [divideByPower_of_lt large]
        exact .further large (isNearest_powerOfTen.mpr rfl) (rounds.mpr rfl)
          (ih (exponent - 308) (by omega))
      · rw [divideByPower_of_le small]
        exact .last small (isNearest_powerOfTen.mpr rfl) (rounds.mpr rfl)

/-- A number over a power of ten is no greater. -/
theorem IsShrunk.le (shrunk : IsShrunk value exponent bits) : bits ≤ value := by
  have bound {value power bits exponent : Nat} (isPower : IsNearest (10 ^ exponent) power)
      (rounded : IsNearest (magnitude value / magnitude power) bits) : bits ≤ value := by
    refine rounded.le_of_le (div_le_self ?_ ?_)
    · rw [← magnitude_zero]
      exact magnitude_strictMono.monotone (Nat.zero_le value)
    · rw [isNearest_powerOfTen.mp isPower]
      exact one_le_magnitude_powerOfTen exponent
  induction shrunk with
  | last _ isPower rounded => exact bound isPower rounded
  | further _ isPower rounded _ ih => exact ih.trans (bound isPower rounded)

/-- Numbers below `2 ^ 1024` are those of doubles. -/
theorem magnitude_lt_iff : magnitude bits < 2 ^ 1024 ↔ bits < infinity := by
  have limit : magnitude infinity = 2 ^ 1024 := by
    have power : (4503599627370496 : ℚ) = 2 ^ 52 := by norm_num
    norm_num [magnitude, infinity]
    rw [power, ← pow_add]
  rw [← limit, magnitude_strictMono.lt_iff_lt]

/-- What a significand and an exponent lead to. -/
theorem isScaled_iff {exponent : Int} : IsScaled significand exponent bits ↔
    (exponent < 0 ∧ bits = divideByPower (ofNat significand) exponent.natAbs) ∨
    (0 ≤ exponent ∧ exponent.natAbs ≤ 308 ∧
      bits = product (ofNat significand) (powerOfTen exponent.natAbs) ∧ bits < infinity) := by
  constructor
  · rintro (⟨read, small, isPower, rounded, finite⟩ | ⟨read, positive, divided⟩)
    · rw [isNearest_natCast.mp read, isNearest_powerOfTen.mp isPower, isNearest_product] at rounded
      exact .inr ⟨Int.natCast_nonneg _, small, rounded, magnitude_lt_iff.mp finite⟩
    · rw [isNearest_natCast.mp read, isShrunk_iff] at divided
      exact .inl ⟨by omega, by rwa [Int.natAbs_neg, Int.natAbs_natCast]⟩
  · rintro (⟨negative, divided⟩ | ⟨positive, small, rounded, finite⟩)
    · have exact : exponent = -(exponent.natAbs : Int) := by omega
      rw [exact]
      exact .shrunk (isNearest_natCast.mpr rfl) (by omega) (isShrunk_iff.mpr divided)
    · have exact : exponent = (exponent.natAbs : Int) := by omega
      rw [exact]
      exact .grown (isNearest_natCast.mpr rfl) small (isNearest_powerOfTen.mpr rfl)
        (isNearest_product.mpr rounded) (magnitude_lt_iff.mpr finite)

/-- A number of 64 bits with a power of ten is in range. -/
theorem IsScaled.lt {exponent : Int} (scaled : IsScaled significand exponent bits)
    (small : significand < wordLimit) : bits < infinity := by
  cases scaled with
  | grown _ _ _ _ finite => exact magnitude_lt_iff.mp finite
  | shrunk read _ divided =>
    have limit : magnitude 0x43F0000000000000 = (wordLimit : Nat) := by
      norm_num [magnitude, wordLimit]
    have bound : significand ≤ magnitude 0x43F0000000000000 := by
      rw [limit]
      exact_mod_cast small.le
    exact (divided.le.trans (read.le_of_le bound)).trans_lt (by decide)

/-- An integer over a power of ten always has a double. -/
theorem ofDecimal?_of_neg {isNegative : Bool} {exponent : Int} (negative : exponent < 0) :
    ofDecimal? isNegative significand exponent =
      some (signed isNegative (divideByPower (ofNat significand) exponent.natAbs)) := by
  rw [ofDecimal?]
  exact if_pos negative

/-- An integer times a power of ten that is a double has one if the product is in range. -/
theorem ofDecimal?_of_le {isNegative : Bool} {exponent : Int} (positive : 0 ≤ exponent)
    (small : exponent.natAbs ≤ 308) :
    ofDecimal? isNegative significand exponent =
      if product (ofNat significand) (powerOfTen exponent.natAbs) < infinity then
        some (signed isNegative (product (ofNat significand) (powerOfTen exponent.natAbs)))
      else none := by
  have fits : exponent.natAbs ≤ greatestExponent := small
  rw [ofDecimal?, if_neg (not_lt.mpr positive), if_pos fits]
  dsimp only
  split
  · rw [if_neg (not_lt.mpr ‹_›)]
  · rw [if_pos (not_le.mp ‹_›)]

/-- An integer times a greater power of ten has a double if it is zero. -/
theorem ofDecimal?_of_lt {isNegative : Bool} {exponent : Int} (positive : 0 ≤ exponent)
    (large : 308 < exponent.natAbs) :
    ofDecimal? isNegative significand exponent =
      if significand = 0 then some (signed isNegative 0) else none := by
  have tooLarge : ¬exponent.natAbs ≤ greatestExponent := Nat.not_le_of_lt large
  rw [ofDecimal?, if_neg (not_lt.mpr positive), if_neg tooLarge]
  simp only [ofNat_eq_zero]

/-- A number is read as its sign and its bits, if it is zero or in range. -/
theorem ofDecimal?_eq_some {isNegative : Bool} {exponent : Int} {double : Double} :
    ofDecimal? isNegative significand exponent = some double ↔
      ∃ bits, (significand = 0 ∧ bits = 0 ∨ IsScaled significand exponent bits) ∧
        double = signed isNegative bits := by
  simp only [isScaled_iff]
  obtain negative | positive := lt_or_ge exponent 0
  · rw [ofDecimal?_of_neg negative, Option.some_inj]
    constructor
    · rintro rfl
      exact ⟨_, .inr (.inl ⟨negative, rfl⟩), rfl⟩
    · rintro ⟨bits, ⟨rfl, rfl⟩ | ⟨-, rfl⟩ | ⟨positive, -⟩, rfl⟩
      · rw [ofNat_eq_zero.mpr rfl, divideByPower_zero]
      · rfl
      · omega
  obtain large | small := Nat.lt_or_ge 308 exponent.natAbs
  · rw [ofDecimal?_of_lt positive large, Option.ite_none_right_eq_some]
    constructor
    · rintro ⟨zero, same⟩
      exact ⟨0, .inl ⟨zero, rfl⟩, (Option.some.inj same).symm⟩
    · rintro ⟨bits, ⟨zero, rfl⟩ | ⟨negative, -⟩ | ⟨-, small, -⟩, rfl⟩
      · exact ⟨zero, rfl⟩
      · omega
      · omega
  · rw [ofDecimal?_of_le positive small, Option.ite_none_right_eq_some]
    constructor
    · rintro ⟨finite, same⟩
      exact ⟨_, .inr (.inr ⟨positive, small, rfl, finite⟩), (Option.some.inj same).symm⟩
    · rintro ⟨bits, ⟨rfl, rfl⟩ | ⟨negative, -⟩ | ⟨-, -, rfl, finite⟩, rfl⟩
      · rw [ofNat_eq_zero.mpr rfl, product_zero]
        exact ⟨by decide, rfl⟩
      · omega
      · exact ⟨finite, rfl⟩

/-- The bits of a double with a sign. -/
theorem toNat_bits_signed {isNegative : Bool} (finite : bits < infinity) :
    (signed isNegative bits).bits.toNat = (if isNegative then 2 ^ 63 else 0) + bits := by
  simp only [infinity] at finite
  have fits : (if isNegative then signBit + bits else bits) < 2 ^ 64 := by
    unfold signBit
    split <;> omega
  rw [signed, UInt64.toNat_ofNat_of_lt' fits]
  split <;> simp [signBit]

/-- The double after that of a power of ten is no less than the power and not much greater. -/
theorem powerOfTen_bounds : ∀ exponent < 309, 10 ^ exponent * one ≤ units (powerOfTen exponent + 1) ∧
    8 * units (powerOfTen exponent + 1) ≤ 9 * 10 ^ exponent * one := by
  decide +kernel

/-- A number is not rounded up by much. -/
theorem magnitude_ofNat_le {digits : Nat} (few : digits ≤ 308) (small : number ≤ 10 ^ digits) :
    magnitude (ofNat number) ≤ 9 / 8 * 10 ^ digits := by
  obtain ⟨least, most⟩ := powerOfTen_bounds digits (Nat.lt_succ_of_le few)
  have nearest : IsNearest number (ofNat number) := isNearest_natCast.mpr rfl
  have unit : (0 : ℚ) < one := Nat.cast_pos.mpr one_pos
  have bound : (number : ℚ) ≤ magnitude (powerOfTen digits + 1) := by
    rw [magnitude_eq, ← cast_one, le_div_iff₀ unit]
    exact_mod_cast (Nat.mul_le_mul_right one small).trans least
  refine (magnitude_strictMono.monotone (nearest.le_of_le bound)).trans ?_
  rw [magnitude_eq, ← cast_one, div_le_iff₀ unit]
  have scaled : (8 * units (powerOfTen digits + 1) : ℚ) ≤ 9 * 10 ^ digits * one := by
    exact_mod_cast most
  linarith

/-- A number with few digits is in range. -/
theorem exists_isScaled {digits : Nat} (small : significand ≤ 10 ^ digits)
    (few : digits + exponent ≤ 308) : ∃ bits, IsScaled significand exponent bits := by
  refine ⟨product (ofNat significand) (powerOfTen exponent),
    isScaled_iff.mpr (.inr ⟨Int.natCast_nonneg _, ?_, rfl, ?_⟩)⟩
  · rw [Int.natAbs_natCast]
    omega
  have nearest : IsNearest (magnitude (ofNat significand) * magnitude (powerOfTen exponent))
      (product (ofNat significand) (powerOfTen exponent)) := isNearest_product.mpr rfl
  refine (nearest.le_of_le ?_).trans_lt (show 0x7FEFFFFFFFFFFFFF < infinity by decide)
  have value := magnitude_ofNat_le (by omega) small
  have power := magnitude_ofNat_le (by omega) (Nat.le_refl (10 ^ exponent))
  have positive : 0 ≤ magnitude (ofNat (10 ^ exponent)) := by
    rw [← magnitude_zero]
    exact magnitude_strictMono.monotone (Nat.zero_le _)
  have limit : (10 : ℚ) ^ 308 * 81 ≤ magnitude 0x7FEFFFFFFFFFFFFF * 64 := by
    decide +kernel
  have bound : (10 : ℚ) ^ (digits + exponent) ≤ 10 ^ 308 := pow_le_pow_right₀ (by norm_num) few
  generalize (10 : ℚ) ^ 308 = most at limit bound
  calc magnitude (ofNat significand) * magnitude (ofNat (10 ^ exponent))
      ≤ 9 / 8 * 10 ^ digits * (9 / 8 * 10 ^ exponent) :=
        mul_le_mul value power positive (by positivity)
    _ = 81 / 64 * 10 ^ (digits + exponent) := by
        rw [pow_add]
        ring
    _ ≤ magnitude 0x7FEFFFFFFFFFFFFF := by
        linarith

end Operations

end DecompileServer.Json.Double

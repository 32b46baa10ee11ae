/-!
# Numbers with a point or an exponent

Such numbers are doubles, kept as their bits so that two of them can be told apart. Reading scales
the leading digits by a power of ten, and each product and quotient is rounded to the nearest
double. Writing takes the fewest digits that no other double is nearer to, and places the point by
the rules of `Double.text`. Both are found exactly on natural numbers.
-/
namespace DecompileServer.Json

/-- A double, by its bits. -/
structure Double where
  /-- The sign, exponent and fraction. -/
  bits : UInt64
  deriving DecidableEq, Repr

namespace Double

/-- The double of a machine number. -/
def ofFloat (value : Float) : Double := ⟨value.toBits⟩

/-- A positive fraction. -/
structure Ratio where
  /-- The upper part. -/
  numerator : Nat
  /-- The lower part. -/
  denominator : Nat

/-- The bit of a fraction that is not stored, which is also the size of a fraction. -/
def hiddenBit : Nat := 0x10000000000000

/-- The number of exponents. -/
def exponentCount : Nat := 0x800

/-- The bit of the sign. -/
def signBit : Nat := 0x8000000000000000

/-- The bits from which on a number is too large for a double. -/
def infinity : Nat := 0x7FF0000000000000

/-- The number of units, of which `2 ^ 1074` are one, in the number that bits without a sign are. -/
def units (bits : Nat) : Nat :=
  let exponent := bits / hiddenBit
  let fraction := bits % hiddenBit
  if exponent = 0 then fraction else (hiddenBit + fraction) * Nat.pow 2 (exponent - 1)

/-- The number of units in one. -/
def one : Nat := units 0x3FF0000000000000

/-- The greatest bits that have no more than the given number of units. -/
def below (count : Nat) : Nat :=
  let shift := count.log2 - 52
  shift * hiddenBit + count / Nat.pow 2 shift

/-- The bits whose units are nearest to a fraction, and of two equally near ones the even ones. They
may be too large for a double. -/
def nearest (exact : Ratio) : Nat :=
  let lower := below (exact.numerator / exact.denominator)
  let middle := exact.denominator * (units lower + units (lower + 1))
  if 2 * exact.numerator < middle ∨ 2 * exact.numerator = middle ∧ lower % 2 = 0 then lower
  else lower + 1

/-- The bits of a natural number. -/
def ofNat (number : Nat) : Nat :=
  nearest ⟨number * one, 1⟩

/-- The bits of a product. -/
def product (left right : Nat) : Nat :=
  nearest ⟨units left * units right, one⟩

/-- The bits of a quotient. -/
def quotient (value divisor : Nat) : Nat :=
  nearest ⟨units value * one, units divisor⟩

/-- The bits of the power of ten with the given exponent. -/
def powerOfTen (exponent : Nat) : Nat :=
  ofNat (Nat.pow 10 exponent)

/-- The greatest exponent of a power of ten that is a double. -/
def greatestExponent : Nat := 308

/-- Divides by a power of ten, by the greatest one as long as a greater one is needed. A number that
is zero stays so. -/
def divideByPower (value exponent : Nat) : Nat :=
  if exponent ≤ greatestExponent then quotient value (powerOfTen exponent)
  else if value = 0 then 0
  else divideByPower (quotient value (powerOfTen greatestExponent)) (exponent - greatestExponent)
termination_by exponent
decreasing_by
  simp only [greatestExponent] at *
  omega

/-- The double with a sign and the bits without it. -/
def signed (isNegative : Bool) (bits : Nat) : Double :=
  ⟨UInt64.ofNat (if isNegative then signBit + bits else bits)⟩

/-- The double of an integer times a power of ten, unless it is too large. -/
def ofDecimal? (isNegative : Bool) (significand : Nat) (exponent : Int) : Option Double :=
  let value := ofNat significand
  if exponent < 0 then some (signed isNegative (divideByPower value exponent.natAbs))
  else if exponent.natAbs ≤ greatestExponent then
    let scaled := product value (powerOfTen exponent.natAbs)
    if infinity ≤ scaled then none else some (signed isNegative scaled)
  else if value = 0 then some (signed isNegative 0)
  else none

/-- The fraction of a double, with its hidden bit, and the exponent of two that goes with it. -/
def significandAndExponent (double : Double) : Nat × Int :=
  let fraction : Nat := double.bits.toNat % hiddenBit
  let exponent : Nat := double.bits.toNat / hiddenBit % exponentCount
  if exponent = 0 then (fraction, -1074) else (hiddenBit + fraction, Int.ofNat exponent - 1075)

/-- Whether the sign is set. -/
def isNegative (double : Double) : Bool :=
  signBit ≤ double.bits.toNat

/-- A fraction times a power of a base. -/
def Ratio.scale (ratio : Ratio) (base : Nat) (exponent : Int) : Ratio :=
  if exponent < 0 then ⟨ratio.numerator, ratio.denominator * Nat.pow base exponent.natAbs⟩
  else ⟨ratio.numerator * Nat.pow base exponent.natAbs, ratio.denominator⟩

/-- Whether one fraction is less than another. -/
def Ratio.less (left right : Ratio) : Bool :=
  left.numerator * right.denominator < right.numerator * left.denominator

/-- The exponent of the leading decimal digit of a positive fraction. -/
def leadingExponent (ratio : Ratio) : Int :=
  if ratio.denominator ≤ ratio.numerator then
    ((Nat.toDigits 10 (ratio.numerator / ratio.denominator)).length : Int) - 1
  else
    match (List.range 400).find? fun shift =>
        ratio.denominator ≤ ratio.numerator * Nat.pow 10 shift with
    | some shift => -(shift : Int)
    | none => 0

/-- The grid point with the given number of digits that lies nearest to `value` between `low` and
`high`, if one does, with its exponent of ten. Of two equally near ones the even one counts, and the
bounds count if `inclusive`. -/
def nearestWith (value low high : Ratio) (inclusive : Bool) (digits : Nat) : Option (Nat × Int) :=
  let exponent := leadingExponent value - ((digits : Int) - 1)
  let scaled := value.scale 10 (-exponent)
  let below := scaled.numerator / scaled.denominator
  let inside (point : Nat) : Bool :=
    let ratio := (Ratio.mk point 1).scale 10 exponent
    if inclusive then !ratio.less low && !high.less ratio else low.less ratio && ratio.less high
  let remainder := scaled.numerator % scaled.denominator
  let isUpperNearer := scaled.denominator < 2 * remainder ||
    (scaled.denominator == 2 * remainder && below % 2 == 1)
  let nearer := if isUpperNearer then [below + 1, below] else [below, below + 1]
  (nearer.find? inside).map fun point => (point, exponent)

/-- An integer without zeros at its end, the exponent of ten growing by their number. -/
def withoutZeros : Nat → Nat × Int → Nat × Int
  | 0, decimal => decimal
  | limit + 1, (digits, exponent) =>
    if digits ≠ 0 ∧ digits % 10 = 0 then withoutZeros limit (digits / 10, exponent + 1)
    else (digits, exponent)

/-- The fewest decimal digits that tell a positive double from all others, with the exponent of ten
that goes with them. -/
def shortest (double : Double) : Nat × Int :=
  let (significand, exponent) := double.significandAndExponent
  let value := (Ratio.mk significand 1).scale 2 exponent
  let isPower := significand = hiddenBit ∧ -1074 < exponent
  let low := (Ratio.mk (4 * significand - if isPower then 1 else 2) 4).scale 2 exponent
  let high := (Ratio.mk (4 * significand + 2) 4).scale 2 exponent
  let found := (List.range 17).findSome? fun count =>
    nearestWith value low high (significand % 2 == 0) (count + 1)
  withoutZeros 20 (found.getD (significand, 0))

/-- The text of a double: positional from `1e-5` to below `1e16` with a digit after the point, and
with an exponent elsewhere, whose sign is always written. -/
def text (double : Double) : String :=
  let sign := if double.isNegative then "-" else ""
  if (double.significandAndExponent).1 = 0 then sign ++ "0.0"
  else
    let (digits, exponent) := double.shortest
    let shown := Nat.toDigits 10 digits
    let count : Int := shown.length
    let point := count + exponent
    let body : List Char :=
      if 0 ≤ exponent ∧ point ≤ 16 then
        shown ++ List.replicate exponent.natAbs '0' ++ ['.', '0']
      else if 0 < point ∧ point ≤ 16 then
        shown.take point.natAbs ++ '.' :: shown.drop point.natAbs
      else if -5 < point ∧ point ≤ 0 then
        ['0', '.'] ++ List.replicate point.natAbs '0' ++ shown
      else
        let mantissa := match shown with
          | [] => []
          | [only] => [only]
          | first :: further => first :: '.' :: further
        let power := point - 1
        mantissa ++ 'e' :: (if power < 0 then '-' else '+') :: Nat.toDigits 10 power.natAbs
    sign ++ String.ofList body

end Double

end DecompileServer.Json

/-
This file holds finite binary floating point numbers of 64 bits as exact data: a sign, a
whole mantissa and a power of two. Rounding a ratio of whole numbers goes to the nearest
number that the format has, and from the middle to the one with an even mantissa; a
product or a quotient is the exact one, rounded. Everything is arithmetic on whole
numbers.

A number is written by the shortest row of digits that reads back as the same number,
and of several such rows by the one nearest to it.
-/

namespace Deskbar

/-- The number `mantissa * 2 ^ exponent`, or its negative. Zero keeps its sign. -/
structure Binary64 where
  negative : Bool
  mantissa : Nat
  exponent : Int
  deriving DecidableEq, Inhabited

namespace Binary64

/-! ### Powers -/

/-- A power of two. -/
def twoTo (exponent : Nat) : Nat := Nat.pow 2 exponent

/-- A power of ten. -/
def tenTo (exponent : Nat) : Nat := Nat.pow 10 exponent

/-! ### Rounding -/

/-- The whole number nearest to a ratio, the even one of two that are equally near. -/
def nearest (numerator denominator : Nat) : Nat :=
  let quotient := numerator / denominator
  let rest := numerator % denominator
  if 2 * rest > denominator || (2 * rest = denominator && quotient % 2 = 1) then quotient + 1
  else quotient

/-- A ratio divided by a power of two, as a ratio. -/
def scaled (numerator denominator : Nat) (exponent : Int) : Nat × Nat :=
  if 0 ≤ exponent then (numerator, denominator * twoTo exponent.toNat)
  else (numerator * twoTo (-exponent).toNat, denominator)

/-- The exponent with which the mantissa nearest to a positive ratio has 53 bits, or the least
exponent there is. -/
def exponentFor (numerator denominator : Nat) : Int :=
  let guess : Int := (numerator.log2 : Int) - denominator.log2 - 53
  let (top, bottom) := scaled numerator denominator guess
  max (-1074) (if top / bottom < twoTo 53 then guess else guess + 1)

/-- The number nearest to a ratio; `none` when the ratio is beyond the largest number. -/
def ofRatio (negative : Bool) (numerator denominator : Nat) : Option Binary64 :=
  if numerator = 0 then some ⟨negative, 0, 0⟩
  else
    let exponent := exponentFor numerator denominator
    let (top, bottom) := scaled numerator denominator exponent
    let mantissa := nearest top bottom
    let rounded : Binary64 :=
      if mantissa = twoTo 53 then ⟨negative, twoTo 52, exponent + 1⟩
      else ⟨negative, mantissa, exponent⟩
    if rounded.exponent ≤ 971 then some rounded else none

/-- The magnitude of a number as a ratio. -/
def ratio (value : Binary64) : Nat × Nat :=
  if 0 ≤ value.exponent then (value.mantissa * twoTo value.exponent.toNat, 1)
  else (value.mantissa, twoTo (-value.exponent).toNat)

/-- The number nearest to `value` times ten to the power of `power`, where the power of ten is
itself rounded first. -/
def timesPowerOfTen (value : Binary64) (power : Nat) : Option Binary64 := do
  let factor ← ofRatio false (tenTo power) 1
  let (top, bottom) := value.ratio
  let (factorTop, factorBottom) := factor.ratio
  ofRatio value.negative (top * factorTop) (bottom * factorBottom)

/-- The number nearest to `value` divided by ten to the power of `power`, where the power of
ten is itself rounded first. -/
def overPowerOfTen (value : Binary64) (power : Nat) : Option Binary64 := do
  let divisor ← ofRatio false (tenTo power) 1
  let (top, bottom) := value.ratio
  let (divisorTop, divisorBottom) := divisor.ratio
  ofRatio value.negative (top * divisorBottom) (bottom * divisorTop)

/-- The number read from a significand of at most 64 bits and a power of ten. The significand
is rounded first and then scaled in steps of at most 308 decimal places, so a long numeral may
end one place off the nearest number. `none` when it is too large. -/
def ofDecimal (negative : Bool) (significand : Nat) (power : Int) : Option Binary64 := do
  let value ← ofRatio negative significand 1
  if 0 ≤ power then
    if significand = 0 then some value
    else if power ≤ 308 then value.timesPowerOfTen power.toNat
    else none
  else
    let places := (-power).toNat
    if places ≤ 308 then value.overPowerOfTen places
    else
      let once ← value.overPowerOfTen 308
      if places ≤ 616 then once.overPowerOfTen (places - 308)
      else some ⟨negative, 0, 0⟩

/-! ### Shortest digits -/

/-- A positive number in decimal: `digits * 10 ^ power`. -/
structure Decimal where
  digits : Nat
  power : Int

/-- Compares `digits * 10 ^ power` with `quarters * 2 ^ exponent`. -/
def compareDecimal (digits : Nat) (power : Int) (quarters : Nat) (exponent : Int) : Ordering :=
  compare (digits * tenTo power.toNat * twoTo (-exponent).toNat)
    (quarters * twoTo exponent.toNat * tenTo (-power).toNat)

/-- Whether a decimal reads back as the number with this mantissa and exponent. The numbers
that do so reach halfway to both neighbours; the lower one is nearer when the mantissa is the
least of its length. The middle itself goes to an even mantissa. -/
def readsBack (value : Binary64) (digits : Nat) (power : Int) : Bool :=
  let lower :=
    if value.mantissa = twoTo 52 ∧ -1074 < value.exponent then 4 * value.mantissa - 1
    else 4 * value.mantissa - 2
  let upper := 4 * value.mantissa + 2
  let even := value.mantissa % 2 = 0
  let aboveLower := compareDecimal digits power lower (value.exponent - 2)
  let belowUpper := compareDecimal digits power upper (value.exponent - 2)
  (aboveLower = .gt || even && aboveLower = .eq) && (belowUpper = .lt || even && belowUpper = .eq)

/-- The power of ten just above a positive number: the place of its first digit, counted from
the decimal point. -/
def leadingPlace (value : Binary64) : Int :=
  let (top, bottom) := value.ratio
  if bottom ≤ top then (Nat.toDigits 10 (top / bottom)).length
  else
    match (List.range 330).find? fun places => bottom ≤ top * tenTo (places + 1) with
    | some places => -(places : Int)
    | none => -330

/-- The decimal with `count` digits nearest to a number among those that read back as it. -/
def decimalOfLength (value : Binary64) (count : Nat) : Option Decimal :=
  let power := value.leadingPlace - count
  let (top, bottom) := value.ratio
  let (top, bottom) :=
    if 0 ≤ power then (top, bottom * tenTo power.toNat) else (top * tenTo (-power).toNat, bottom)
  let below := top / bottom
  let nearer := nearest top bottom
  let farther := if nearer = below then below + 1 else below
  if value.readsBack nearer power then some ⟨nearer, power⟩
  else if value.readsBack farther power then some ⟨farther, power⟩
  else none

/-- Moves the zeros at the end of the digits into the power of ten. -/
def Decimal.normalize : Nat → Decimal → Decimal
  | 0, decimal => decimal
  | steps + 1, decimal =>
    if decimal.digits ≠ 0 ∧ decimal.digits % 10 = 0 then
      normalize steps ⟨decimal.digits / 10, decimal.power + 1⟩
    else decimal

/-- The shortest decimal that reads back as a number. -/
def shortest (value : Binary64) : Decimal :=
  if value.mantissa = 0 then ⟨0, 0⟩
  else
    match (List.range 17).findSome? fun count => value.decimalOfLength (count + 1) with
    | some decimal => decimal.normalize 20
    | none => ⟨0, 0⟩

/-! ### Texts -/

/-- Digits with a decimal point and at least one digit on either side of it. -/
def positional (decimal : Decimal) : String :=
  let digits := Nat.toDigits 10 decimal.digits
  let place := digits.length + decimal.power
  if 0 ≤ decimal.power then
    String.ofList (digits ++ List.replicate decimal.power.toNat '0' ++ ['.', '0'])
  else if 0 < place then
    String.ofList (digits.take place.toNat ++ '.' :: digits.drop place.toNat)
  else String.ofList ('0' :: '.' :: List.replicate (-place).toNat '0' ++ digits)

/-- One digit, a decimal point if more follow, and the power of ten of the first with its
sign. -/
def scientific (decimal : Decimal) : String :=
  let digits := Nat.toDigits 10 decimal.digits
  let point := if digits.length = 1 then [] else ['.']
  let power := digits.length + decimal.power - 1
  let sign := if power < 0 then '-' else '+'
  String.ofList (digits.take 1 ++ point ++ digits.drop 1 ++ 'e' :: sign ::
    Nat.toDigits 10 power.natAbs)

/-- Puts the sign in front. -/
def signed (value : Binary64) (text : String) : String :=
  if value.negative then "-" ++ text else text

/-- The text of a number in a document: positional while the decimal point stands at most five
places in front of the first digit and at most sixteen behind it, else with an exponent. -/
def documentText (value : Binary64) : String :=
  let decimal := value.shortest
  let place := (Nat.toDigits 10 decimal.digits).length + decimal.power
  value.signed (if -5 < place ∧ place ≤ 16 then positional decimal else scientific decimal)

end Binary64

end Deskbar

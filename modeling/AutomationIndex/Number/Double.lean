/-! Double precision numbers, held as the exact dyadic values that decimal text rounds to. -/

namespace AutomationIndex

/-- A double precision number. -/
inductive Double where
  | notANumber
  | infinite (negative : Bool)
  /-- The value `mantissa * 2 ^ exponent`. -/
  | finite (mantissa exponent : Int)
  deriving DecidableEq, Repr

namespace Double

/-- The quotient rounded to the nearest natural number, a tie to the even one. -/
def roundQuotient (numerator denominator : Nat) : Nat :=
  let quotient := numerator / denominator
  let remainder := numerator % denominator
  -- Half way between two, the even one is taken.
  if 2 * remainder > denominator || (2 * remainder == denominator && quotient % 2 == 1) then
    quotient + 1
  else quotient

/-- The quotient of a fraction by a power of two, as a fraction again. -/
def scaled (numerator denominator : Nat) (exponent : Int) : Nat × Nat :=
  if exponent ≥ 0 then (numerator, denominator * Nat.pow 2 exponent.toNat)
  else (numerator * Nat.pow 2 (-exponent).toNat, denominator)

/-- The double nearest to a fraction: 53 binary digits, none below the place -1074. -/
def ofFraction (negative : Bool) (numerator denominator : Nat) : Double :=
  -- The guess is one too small when the scaled quotient takes 54 bits.
  let guess : Int := (numerator.log2 : Int) - denominator.log2 - 53
  let (top, bottom) := scaled numerator denominator guess
  -- Below this exponent the values are subnormal and keep fewer bits.
  let exponent := max (if top ≥ bottom * Nat.pow 2 53 then guess + 1 else guess) (-1074)
  let (top, bottom) := scaled numerator denominator exponent
  let mantissa := roundQuotient top bottom
  -- Rounding up may carry the value over the largest one.
  if exponent ≥ 0 && mantissa * Nat.pow 2 exponent.toNat ≥ Nat.pow 2 1024 then infinite negative
  else finite (if negative then -(mantissa : Int) else mantissa) exponent

/-- The double nearest to a decimal number. Far outside the range the digits do not matter. -/
def ofDecimal (negative : Bool) (digits : Nat) (exponent : Int) : Double :=
  if digits == 0 then finite 0 0
  else
    -- Outside these bounds the result is decided, and no large power is computed.
    let magnitude := ((Nat.toDigits 10 digits).length : Int) + exponent
    if magnitude > 400 then infinite negative
    else if magnitude < -400 then finite 0 0
    else if exponent ≥ 0 then ofFraction negative (digits * Nat.pow 10 exponent.toNat) 1
    else ofFraction negative digits (Nat.pow 10 (-exponent).toNat)

/-- Whether a number is neither infinite nor undefined. -/
def isFinite : Double → Bool
  | finite _ _ => true
  | _ => false

/-- The integer that a number equals, if it does. -/
def toInt? : Double → Option Int
  | finite mantissa exponent =>
    if exponent ≥ 0 then some (mantissa * Nat.pow 2 exponent.toNat)
    else
      let unit : Int := Nat.pow 2 (-exponent).toNat
      -- An integer all the same, when the fraction bits are zero.
      if mantissa % unit == 0 then some (mantissa / unit) else none
  | _ => none

end Double

end AutomationIndex

/-!
Decimal numbers as 64-bit binary floating point holds them: rounded to the nearest number with 53
significant bits, a tie going to the even one.
-/
namespace VirtualImports

/-- A finite number is `mantissa * 2 ^ exponent`, with its sign. -/
inductive Binary64
  | finite (negative : Bool) (mantissa : Nat) (exponent : Int)
  | infinite (negative : Bool)
  | notANumber
  deriving DecidableEq, Repr

namespace Binary64

/-- The quotient rounded to the nearest natural number, a tie to the even one. -/
def roundQuotient (numerator denominator : Nat) : Nat :=
  let quotient := numerator / denominator
  let twiceRest := 2 * (numerator % denominator)
  if twiceRest < denominator then quotient
  else if denominator < twiceRest then quotient + 1
  else quotient + quotient % 2

/-- `numerator / denominator / 2 ^ exponent` as a fraction. -/
def scaled (numerator denominator : Nat) (exponent : Int) : Nat × Nat :=
  if 0 ≤ exponent then (numerator, denominator <<< exponent.toNat)
  else (numerator <<< (-exponent).toNat, denominator)

/-- Rounds a positive fraction. Numbers below `2 ^ -1022` keep fewer bits. -/
def ofFraction (negative : Bool) (numerator denominator : Nat) : Binary64 :=
  let guess : Int := (numerator.log2 : Int) - denominator.log2 - 52
  let (n, d) := scaled numerator denominator guess
  let exponent := max (if n / d < 1 <<< 52 then guess - 1 else guess) (-1074)
  let (n, d) := scaled numerator denominator exponent
  let mantissa := roundQuotient n d
  if mantissa = 0 then finite negative 0 0
  else if 1024 ≤ (mantissa.log2 : Int) + exponent then infinite negative
  else finite negative mantissa exponent

/-- The number `digits * 10 ^ exponent`. Powers far outside the range are not computed. -/
def ofDecimal (negative : Bool) (digits : Nat) (exponent : Int) : Binary64 :=
  let magnitude : Int := (digits.log2 : Int) / 3 + exponent
  if digits = 0 || magnitude < -400 - (digits.log2 : Int) then finite negative 0 0
  else if 400 < exponent then infinite negative
  else if 0 ≤ exponent then ofFraction negative (digits * Nat.pow 10 exponent.toNat) 1
  else ofFraction negative digits (Nat.pow 10 (-exponent).toNat)

def isZero : Binary64 → Bool
  | finite _ mantissa _ => mantissa == 0
  | _ => false

/-- The value, where it is an integer. -/
def integer? : Binary64 → Option Int
  | finite negative mantissa exponent =>
    let magnitude : Option Nat :=
      if 0 ≤ exponent then some (mantissa <<< exponent.toNat)
      else
        let unit := 1 <<< (-exponent).toNat
        if mantissa % unit = 0 then some (mantissa / unit) else none
    magnitude.map fun n => if negative then -(n : Int) else n
  | _ => none

end Binary64

end VirtualImports

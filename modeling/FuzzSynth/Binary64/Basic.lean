/-
Binary floating-point numbers of 64 bits.

A finite number is a sign, a mantissa below `2 ^ 53` and a power of two.  All
rounding goes through `ofRatio`, which takes the representable number nearest to a
quotient, and of two equally near the one with the even mantissa.
-/
namespace FuzzSynth

/-- A 64-bit binary floating-point number. -/
inductive Binary64 where
  /-- `± mantissa * 2 ^ exponent`. -/
  | finite (negative : Bool) (mantissa : Nat) (exponent : Int)
  | infinite (negative : Bool)
  | nan
  deriving DecidableEq, Repr, Inhabited

/-- The quotient rounded to the nearest whole number, a tie going to the even one. -/
def roundDiv (num den : Nat) : Nat :=
  let quotient := num / den
  let rest := num % den
  if den < 2 * rest || (2 * rest == den && quotient % 2 == 1) then quotient + 1 else quotient

namespace Binary64

/-- The least power of two of a mantissa. -/
def minExponent : Int := -1074

/-- The greatest power of two of a mantissa. -/
def maxExponent : Int := 971

/-- Zero, with a sign. -/
def zero (negative : Bool) : Binary64 := finite negative 0 minExponent

/-- A number times a power of two, as a quotient of natural numbers. -/
def scale (num den : Nat) (power : Int) : Nat × Nat :=
  if 0 ≤ power then (num * Nat.pow 2 power.toNat, den)
  else (num, den * Nat.pow 2 (-power).toNat)

/-- The power of two under which a positive quotient has a mantissa of 53 bits, or the
least power for a number too small for that. -/
def exponentOf (num den : Nat) : Int :=
  let guess : Int := (num.log2 : Int) - (den.log2 : Int) - 52
  let (n, d) := scale num den (-guess)
  let exact := if n / d < Nat.pow 2 52 then guess - 1 else guess
  max exact minExponent

/-- A mantissa of up to 54 bits and its power of two, as a number. -/
def ofMantissa (negative : Bool) (mantissa : Nat) (exponent : Int) : Binary64 :=
  let (m, e) := if mantissa = Nat.pow 2 53 then (Nat.pow 2 52, exponent + 1) else (mantissa, exponent)
  if maxExponent < e then infinite negative else finite negative m e

/-- The number nearest to `num / den`, with the given sign. -/
def ofRatio (negative : Bool) (num den : Nat) : Binary64 :=
  if num = 0 then zero negative
  else
    let exponent := exponentOf num den
    let (n, d) := scale num den (-exponent)
    ofMantissa negative (roundDiv n d) exponent

/-- The quotient of two whole numbers; the sign is that of the division even if nothing
is left. -/
def ofQuotient (num den : Int) : Binary64 :=
  ofRatio (decide (num < 0) != decide (den < 0)) num.natAbs den.natAbs

/-- The number nearest to `digits * 10 ^ power`.  With `l` the binary logarithm of the
digits, they are at least `10 ^ (3 * l / 10)` and less than `10 ^ (31 * (l + 1) / 100 + 1)`,
because `10 ^ 3 < 2 ^ 10` and `2 ^ 100 < 10 ^ 31`; so numbers far outside the range are told
by their logarithm. -/
def ofDecimal (negative : Bool) (digits : Nat) (power : Int) : Binary64 :=
  let l : Int := digits.log2
  if digits = 0 then zero negative
  else if 400 < 3 * l / 10 + power then infinite negative
  else if 31 * (l + 1) / 100 + 1 + power < -400 then zero negative
  else if 0 ≤ power then ofRatio negative (digits * Nat.pow 10 power.toNat) 1
  else ofRatio negative digits (Nat.pow 10 (-power).toNat)

/-- The magnitude of a finite number as a quotient. -/
def ratio (mantissa : Nat) (exponent : Int) : Nat × Nat :=
  scale mantissa 1 exponent

/-- The whole number that a floating-point number equals, if there is one. -/
def toInt? : Binary64 → Option Int
  | finite negative mantissa exponent =>
      let (num, den) := ratio mantissa exponent
      if num % den = 0 then
        some (if negative then -(num / den : Nat) else (num / den : Nat))
      else none
  | _ => none

/-- Whether the number is neither infinite nor undefined. -/
def isFinite : Binary64 → Bool
  | finite _ _ _ => true
  | _ => false

/-- Rounds to decimal places, a tie going to the even last digit. -/
def roundPlaces (places : Nat) : Binary64 → Binary64
  | finite negative mantissa exponent =>
      let (num, den) := ratio mantissa exponent
      ofRatio negative (roundDiv (num * Nat.pow 10 places) den) (Nat.pow 10 places)
  | other => other

end Binary64

end FuzzSynth

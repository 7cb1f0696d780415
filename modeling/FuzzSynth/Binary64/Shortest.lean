/-
Shortest decimals.

Many decimals read back as the same binary number: those between the points half
way to its two neighbours.  `shortest` looks for the one with the fewest digits,
and of several with as few digits for the nearest.  With `n` digits the only
decimals worth testing are the two around the number on the grid of `n` digits.
-/
import FuzzSynth.Binary64.Basic

namespace FuzzSynth.Binary64

/-- The decimals that read back as one number: between `low / den` and `high / den`, the
ends included if `closed`; the number itself is `value / den`. -/
structure Interval where
  value : Nat
  low : Nat
  high : Nat
  den : Nat
  closed : Bool

/-- The interval of a positive finite number. -/
def intervalOf (mantissa : Nat) (exponent : Int) : Interval :=
  let below := if mantissa = Nat.pow 2 52 && minExponent < exponent then 1 else 2
  let (unit, den) := scale 1 1 (exponent - 2)
  ⟨4 * mantissa * unit, (4 * mantissa - below) * unit, (4 * mantissa + 2) * unit, den,
   mantissa % 2 == 0⟩

/-- Whether the decimal `digits * gridNum / gridDen` lies in the interval. -/
def Interval.holds (i : Interval) (digits gridNum gridDen : Nat) : Bool :=
  let point := digits * gridNum * i.den
  if i.closed then i.low * gridDen ≤ point && point ≤ i.high * gridDen
  else i.low * gridDen < point && point < i.high * gridDen

/-- The greatest power of ten not above `num / den`, searched from `power` down. -/
def leadingPower (num den : Nat) : (steps : Nat) → (power : Int) → Int
  | 0, power => power
  | steps + 1, power =>
      let reached :=
        if 0 ≤ power then decide (Nat.pow 10 power.toNat * den ≤ num)
        else decide (den ≤ num * Nat.pow 10 (-power).toNat)
      if reached then power else leadingPower num den steps (power - 1)

/-- Ten to a power, as a quotient. -/
def tenTo (power : Int) : Nat × Nat :=
  if 0 ≤ power then (Nat.pow 10 power.toNat, 1) else (1, Nat.pow 10 (-power).toNat)

/-- The digits of the decimal on the grid of `10 ^ power` that reads back, if one does. -/
def onGrid (i : Interval) (power : Int) : Option Nat :=
  let (gridNum, gridDen) := tenTo power
  let num := i.value * gridDen
  let den := i.den * gridNum
  let lower := num / den
  let nearest := roundDiv num den
  let other := if nearest = lower then lower + 1 else lower
  if i.holds nearest gridNum gridDen then some nearest
  else if i.holds other gridNum gridDen then some other
  else none

/-- Tries grids of more and more digits; `power` is the grid of the first try. -/
def shortestFrom (i : Interval) : (tries : Nat) → (power : Int) → Nat × Int
  | 0, power => (i.value * (tenTo power).2 / (i.den * (tenTo power).1), power)
  | tries + 1, power =>
      match onGrid i power with
      | some digits => (digits, power)
      | none => shortestFrom i tries (power - 1)

/-- Moves zeros at the end of the digits into the power. -/
def stripZeros (digits : Nat) (power : Int) : Nat × Int :=
  if h : digits ≠ 0 ∧ digits % 10 = 0 then stripZeros (digits / 10) (power + 1) else (digits, power)
termination_by digits
decreasing_by omega

/-- The shortest decimal `digits * 10 ^ power` of a positive finite number. -/
def shortest (mantissa : Nat) (exponent : Int) : Nat × Int :=
  let (num, den) := ratio mantissa exponent
  let i := intervalOf mantissa exponent
  let (digits, power) := shortestFrom i 17 (leadingPower num den 700 310)
  stripZeros digits power

end FuzzSynth.Binary64

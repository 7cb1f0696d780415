/-
Numbers of TOML.

A number is the longest text of its form; what follows it is left to the reader of the
value.  Whole numbers may be in base 16, 8 or 2 after `0x`, `0o` and `0b`.  A decimal
number has a sign or none, a whole part without needless zeros, and then maybe a fraction
and an exponent, which make it a floating-point number.  Single underscores may stand
between digits.
-/
import FuzzSynth.Json.Value
import FuzzSynth.Toml.Fault

namespace FuzzSynth.Toml

open FuzzSynth.Text

/-! ## Digits -/

/-- The value of a digit in a base. -/
def digitIn (base : Nat) (c : Char) : Option Nat :=
  (hexValue? c).bind fun d => if d < base then some d else none

/-- The digits at the start of a text, each with an underscore before it or none, and the
text after them. -/
def moreDigits (base : Nat) : List Char → List Nat × List Char
  | [] => ([], [])
  | [c] =>
      match digitIn base c with
      | some d => ([d], [])
      | none => ([], [c])
  | c :: next :: rest =>
      match digitIn base c with
      | some d =>
          let (digits, after) := moreDigits base (next :: rest)
          (d :: digits, after)
      | none =>
          match if c == '_' then digitIn base next else none with
          | some d =>
              let (digits, after) := moreDigits base rest
              (d :: digits, after)
          | none => ([], c :: next :: rest)

/-- One or more digits at the start of a text, and the text after them. -/
def digits? (base : Nat) : List Char → Option (List Nat × List Char)
  | [] => none
  | c :: rest =>
      (digitIn base c).map fun d =>
        let (digits, after) := moreDigits base rest
        (d :: digits, after)

/-! ## Whole numbers in other bases -/

/-- The whole number at the start of a text that names its base, and the text after it. -/
def based? : List Char → Option (Json × List Char)
  | '0' :: mark :: rest =>
      let base := if mark == 'x' then 16 else if mark == 'o' then 8 else 2
      if mark == 'x' || mark == 'o' || mark == 'b' then
        (digits? base rest).map fun (digits, after) => (.int (ofDigits base digits), after)
      else none
  | _ => none

/-! ## Decimal numbers -/

/-- The digits before the point, which start with zero only if that is all there is. -/
def wholePart? : List Char → Option (List Nat × List Char)
  | '0' :: rest => some ([0], rest)
  | cs => digits? 10 cs

/-- The digits after the point, if there are any. -/
def fractionPart? : List Char → Option (List Nat × List Char)
  | '.' :: rest => digits? 10 rest
  | _ => none

/-- The exponent, if there is one. -/
def exponentPart? : List Char → Option (Int × List Char)
  | c :: rest =>
      if c == 'e' || c == 'E' then
        let (negative, unsigned) := splitSign rest
        (digits? 10 unsigned).map fun (digits, after) => (withSign negative (ofDigits 10 digits), after)
      else none
  | [] => none

/-- The parts of the decimal number at the start of a text, and the text after it. -/
def decimal? (cs : List Char) : Option (DecimalParts × List Char) :=
  let (negative, unsigned) := splitSign cs
  (wholePart? unsigned).map fun (whole, rest) =>
    let (fraction, rest) := match fractionPart? rest with
      | some (digits, after) => (some digits, after)
      | none => (none, rest)
    let (exponent, rest) := match exponentPart? rest with
      | some (power, after) => (some power, after)
      | none => (none, rest)
    (⟨negative, whole, fraction, exponent⟩, rest)

/-- What a decimal number stands for; only a whole number can have too many digits. -/
def decimalValue (p : DecimalParts) : Except Fault Json :=
  if p.fraction.isSome || p.exponent.isSome then .ok (.float p.nearest)
  else if digitLimit < p.whole.length then .error (.tooManyDigits p.whole.length)
  else .ok (.int (withSign p.negative (ofDigits 10 p.whole)))

/-! ## Words for numbers -/

/-- The number at the start of a text that a word stands for, and the text after it. -/
def named? (cs : List Char) : Option (Json × List Char) :=
  match splitSign cs with
  | (negative, 'i' :: 'n' :: 'f' :: rest) => some (.float (.infinite negative), rest)
  | (_, 'n' :: 'a' :: 'n' :: rest) => some (.float .nan, rest)
  | _ => none

/-- The number at the start of a text, and the text after it. -/
def readNumber (cs : List Char) : Except Fault (Json × List Char) :=
  match based? cs with
  | some found => .ok found
  | none =>
      match decimal? cs with
      | some (parts, rest) => (decimalValue parts).map fun value => (value, rest)
      | none =>
          match named? cs with
          | some found => .ok found
          | none => .error .noValue

end FuzzSynth.Toml

/-
Numerals with grouped digits.

In a numeral single underscores may stand between digits: `10_000`.  A decimal
number may have a sign, a fraction after a point and an exponent; either the whole
part or the fraction may be missing, but not both.  Which characters are digits is
left to the reader, who gives the value of each.
-/
import FuzzSynth.Binary64.Basic
import FuzzSynth.Text.Digit

namespace FuzzSynth.Text

/-! ## Whole numbers -/

/-- The digits of a numeral: one or more, with at most one `_` between two of them. -/
def groupedDigits? (value? : Char → Option Nat) : List Char → Option (List Nat)
  | [] => none
  | [c] => (value? c).map fun d => [d]
  | c :: '_' :: rest =>
      match value? c, groupedDigits? value? rest with
      | some d, some ds => some (d :: ds)
      | _, _ => none
  | c :: rest =>
      match value? c, groupedDigits? value? rest with
      | some d, some ds => some (d :: ds)
      | _, _ => none

/-- The number that digits stand for. -/
def ofDigits (base : Nat) (digits : List Nat) : Nat :=
  digits.foldl (fun n d => n * base + d) 0

/-- Whether there is a minus sign, and what follows the sign. -/
def splitSign : List Char → Bool × List Char
  | '-' :: rest => (true, rest)
  | '+' :: rest => (false, rest)
  | cs => (false, cs)

/-- A natural number with a sign. -/
def withSign (negative : Bool) (n : Nat) : Int :=
  if negative then -n else n

/-- The greatest number of digits a whole number may be written with. -/
def digitLimit : Nat := 4300

/-- What is said about a number with too many digits. -/
def tooManyDigitsText (count : Nat) : String :=
  "Exceeds the limit (" ++ String.ofList (decimalDigits digitLimit) ++
    " digits) for integer string conversion: value has " ++ String.ofList (decimalDigits count) ++
    " digits; use sys.set_int_max_str_digits() to increase the limit"

/-- Whether a whole number has few enough digits to be written. -/
def isWritable (n : Int) : Bool :=
  n.natAbs < Nat.pow 10 digitLimit

/-- What is said about a number that cannot be written. -/
def unwritableText : String :=
  "Exceeds the limit (" ++ String.ofList (decimalDigits digitLimit) ++
    " digits) for integer string conversion; use sys.set_int_max_str_digits() to increase the limit"

/-! ## Decimal numbers -/

/-- A decimal number in parts. -/
structure DecimalParts where
  negative : Bool
  /-- The digits before the point. -/
  whole : List Nat
  /-- The digits after the point, if there is a point. -/
  fraction : Option (List Nat)
  exponent : Option Int
  deriving DecidableEq, Repr, Inhabited

/-- Digits that may be missing. -/
def optionalDigits? (value? : Char → Option Nat) (cs : List Char) : Option (List Nat) :=
  if cs.isEmpty then some [] else groupedDigits? value? cs

/-- The text before the first character of a kind, and the text after that character. -/
def splitAt? (isMark : Char → Bool) (cs : List Char) : List Char × Option (List Char) :=
  (cs.takeWhile fun c => !isMark c,
   match cs.dropWhile fun c => !isMark c with
   | [] => none
   | _ :: rest => some rest)

/-- An exponent: digits with an optional sign. -/
def exponent? (value? : Char → Option Nat) (cs : List Char) : Option Int :=
  let (negative, rest) := splitSign cs
  (groupedDigits? value? rest).map fun digits => withSign negative (ofDigits 10 digits)

/-- The parts of a decimal number. -/
def decimalParts? (value? : Char → Option Nat) (cs : List Char) : Option DecimalParts := do
  let (negative, unsigned) := splitSign cs
  let (mantissa, power) := splitAt? (fun c => c == 'e' || c == 'E') unsigned
  let (before, after) := splitAt? (· == '.') mantissa
  let whole ← optionalDigits? value? before
  let fraction ← after.mapM (optionalDigits? value?)
  let exponent ← power.mapM (exponent? value?)
  if whole.isEmpty && (fraction.getD []).isEmpty then none
  else some ⟨negative, whole, fraction, exponent⟩

/-- The floating-point number nearest to a decimal number. -/
def DecimalParts.nearest (p : DecimalParts) : Binary64 :=
  let fraction := p.fraction.getD []
  .ofDecimal p.negative (ofDigits 10 (p.whole ++ fraction)) (p.exponent.getD 0 - (fraction.length : Int))

end FuzzSynth.Text

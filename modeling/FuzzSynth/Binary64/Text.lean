/-
Writing floating-point numbers.

`fixedText` writes a given number of decimal places, a half going to the even
digit.  `text` writes the shortest decimal that reads back: positionally when the
leading digit stands for a power of ten from -4 to 15, with an exponent of at
least two digits otherwise, and always with a point or an exponent, so that the
text is not mistaken for a whole number.
-/
import FuzzSynth.Binary64.Shortest
import FuzzSynth.Text.Digit

namespace FuzzSynth.Binary64

open FuzzSynth.Text

/-- The sign in front of a number. -/
def signText (negative : Bool) : List Char :=
  if negative then ['-'] else []

/-- Digits with zeros in front, at least `width` of them. -/
def padded (width : Nat) (digits : List Char) : List Char :=
  List.replicate (width - digits.length) '0' ++ digits

/-- The names under which a format writes numbers that are not finite. -/
structure SpecialNames where
  nan : String
  infinite : String

/-- The names used in messages. -/
def messageNames : SpecialNames := ⟨"nan", "inf"⟩

/-- The names used in documents. -/
def documentNames : SpecialNames := ⟨"NaN", "Infinity"⟩

/-- Digits with a point, the leading one standing for `10 ^ leading`. -/
def positional (digits : List Char) (leading : Int) : List Char :=
  if 0 ≤ leading then
    let whole := leading.toNat + 1
    let body := digits ++ List.replicate (whole - digits.length) '0'
    let fraction := body.drop whole
    body.take whole ++ '.' :: (if fraction.isEmpty then ['0'] else fraction)
  else '0' :: '.' :: List.replicate ((-leading).toNat - 1) '0' ++ digits

/-- Digits with an exponent, the leading one standing for `10 ^ leading`. -/
def scientific (digits : List Char) (leading : Int) : List Char :=
  let fraction := digits.drop 1
  digits.take 1 ++ (if fraction.isEmpty then [] else '.' :: fraction) ++
    'e' :: (if leading < 0 then '-' else '+') :: padded 2 (decimalDigits leading.natAbs)

/-- The shortest text that reads back as the number. -/
def text (names : SpecialNames) : Binary64 → String
  | nan => names.nan
  | infinite negative => String.ofList (signText negative) ++ names.infinite
  | finite negative mantissa exponent =>
      if mantissa = 0 then String.ofList (signText negative) ++ "0.0"
      else
        let (value, power) := shortest mantissa exponent
        let digits := decimalDigits value
        let leading := power + (digits.length : Int) - 1
        String.ofList <| signText negative ++
          if -4 ≤ leading && leading < 16 then positional digits leading
          else scientific digits leading

/-- The number written with the given number of decimal places. -/
def fixedText (places : Nat) : Binary64 → String
  | nan => messageNames.nan
  | infinite negative => String.ofList (signText negative) ++ messageNames.infinite
  | finite negative mantissa exponent =>
      let (num, den) := ratio mantissa exponent
      let digits := padded (places + 1) (decimalDigits (roundDiv (num * Nat.pow 10 places) den))
      let whole := digits.length - places
      String.ofList <| signText negative ++ digits.take whole ++
        if places = 0 then [] else '.' :: digits.drop whole

end FuzzSynth.Binary64

/-
Whole numbers given as text.

A number stands in the text by itself: a minus sign or none, and digits without a
needless zero (`plainWhole?`); only such a text can be refused for its length.  A text that
is not such a number is simplified once and read again: blanks at either end, a plus sign,
needless zeros, a fraction of zeros and single underscores between digits mean nothing.
-/
import FuzzSynth.Text.Blank
import FuzzSynth.Text.Numeral
import FuzzSynth.Validation

namespace FuzzSynth.Validation

open FuzzSynth.Text

/-! ## Plain numbers -/

/-- Whether there is a minus sign, and what follows it. -/
def splitMinus : List Char → Bool × List Char
  | '-' :: rest => (true, rest)
  | cs => (false, cs)

/-- A number in plain digits, or its refusal if it is too long; `none` if the text is no
such number. -/
def plainWhole? (cs : List Char) : Option (Checked Int) :=
  let (negative, unsigned) := splitMinus cs
  let digits := unsigned.takeWhile isAsciiDigit
  match digits.filterMap asciiValue? with
  | [] => none
  | 0 :: _ => if unsigned == ['0'] then some (.ok 0) else none
  | values =>
      if digitLimit < digits.length then some (refuse .oversizedInteger)
      else if digits.length == unsigned.length then
        some (.ok (withSign negative (ofDigits 10 values)))
      else none

/-! ## Simplification -/

/-- The text after leading zeros and the underscores among them, where `last` is the
character before the text.  A zero before the end or before a point stays. -/
def afterZeros? (last : Char) : List Char → Option (List Char)
  | [] => some [last]
  | c :: rest =>
      if c == '0' || c == '_' then afterZeros? c rest
      else if isAsciiDigit c || c == '-' then some (c :: rest)
      else if c == '.' then some (last :: c :: rest)
      else none

/-- The text without needless zeros at its start, which has to be a digit or a minus sign. -/
def dropZeros? : List Char → Option (List Char)
  | '0' :: rest => afterZeros? '0' rest
  | c :: rest => if isAsciiDigit c || c == '-' then some (c :: rest) else none
  | [] => none

/-- The text without a fraction of one or more zeros. -/
def dropFraction (cs : List Char) : List Char :=
  match splitAt? (· == '.') cs with
  | (whole, some (c :: rest)) => if (c :: rest).all (· == '0') then whole else cs
  | _ => cs

/-- Whether every underscore has another character on either side. -/
def isGrouped : List Char → Bool
  | [] => true
  | ['_'] => false
  | '_' :: '_' :: _ => false
  | _ :: rest => isGrouped rest

/-- The text without its underscores, if each of them stands alone inside it. -/
def dropUnderscores (cs : List Char) : List Char :=
  if cs.head? != some '_' && isGrouped cs then cs.filter (· != '_') else cs

/-- A text with what means nothing in a number left out; no minus sign may follow a plus
sign. -/
def simplified? (cs : List Char) : Option (List Char) :=
  let (negative, unsigned) := splitSign cs
  if cs.head? == some '+' && unsigned.head? == some '-' then none
  else
    (dropZeros? unsigned).map fun rest =>
      (if negative then ['-'] else []) ++ dropUnderscores (dropFraction rest)

/-! ## Reading -/

/-- A whole number written as text. -/
def wholeOfText (s : String) : Checked Int :=
  match plainWhole? s.toList with
  | some number => number
  | none =>
      match (simplified? (trimWhiteSpace s.toList)).bind plainWhole? with
      | some (.ok n) => .ok n
      | _ => refuse .unreadableInteger

end FuzzSynth.Validation

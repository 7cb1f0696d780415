/-
Dates and times of TOML.

A date is `YYYY-MM-DD`; a time `HH:MM:SS`, maybe with a fraction, may follow it after `T`
or a blank, and then the distance from universal time; a time may also stand alone.  As
with numbers, the longest text of the form counts.  A date has to be one of the calendar.
-/
import FuzzSynth.Json.Value
import FuzzSynth.Toml.Fault

namespace FuzzSynth.Toml

open FuzzSynth.Text

/-! ## Dates -/

/-- A date, which need not be one of the calendar. -/
structure Date where
  year : Nat
  month : Nat
  day : Nat
  deriving DecidableEq, Repr, Inhabited

namespace Date

/-- Whether a year has a day more than others. -/
def isLeap (year : Nat) : Bool :=
  year % 4 == 0 && (year % 100 != 0 || year % 400 == 0)

/-- How many days a month has. -/
def daysIn (year month : Nat) : Nat :=
  if month = 2 then (if isLeap year then 29 else 28)
  else if month = 4 ∨ month = 6 ∨ month = 9 ∨ month = 11 then 30
  else 31

/-- Whether a date is one of the calendar, which starts with year 1. -/
def isValid (d : Date) : Bool :=
  1 ≤ d.year && 1 ≤ d.month && d.month ≤ 12 && 1 ≤ d.day && d.day ≤ daysIn d.year d.month

end Date

/-- The number of a fixed count of digits at the start of a text, and the text after it. -/
def fixedDigits? : (count : Nat) → List Char → Option (Nat × List Char)
  | 0, cs => some (0, cs)
  | _ + 1, [] => none
  | count + 1, c :: rest =>
      (asciiValue? c).bind fun d =>
        (fixedDigits? count rest).map fun (n, after) => (d * Nat.pow 10 count + n, after)

/-- A number of two digits between bounds. -/
def twoDigits? (least most : Nat) (cs : List Char) : Option (Nat × List Char) :=
  (fixedDigits? 2 cs).filter fun found => least ≤ found.1 && found.1 ≤ most

/-- The text after a character that has to be there. -/
def after? (c : Char) : List Char → Option (List Char)
  | d :: rest => if d == c then some rest else none
  | [] => none

/-- The date at the start of a text, and the text after it. -/
def date? (cs : List Char) : Option (Date × List Char) := do
  let (year, rest) ← fixedDigits? 4 cs
  let (month, rest) ← twoDigits? 1 12 (← after? '-' rest)
  let (day, rest) ← twoDigits? 1 31 (← after? '-' rest)
  pure (⟨year, month, day⟩, rest)

/-! ## Times -/

/-- The text after the fraction of a second, if there is one. -/
def afterFraction : List Char → List Char
  | '.' :: c :: rest => if isAsciiDigit c then rest.dropWhile isAsciiDigit else '.' :: c :: rest
  | cs => cs

/-- The text after the time that a text starts with. -/
def afterTime? (cs : List Char) : Option (List Char) := do
  let (_, rest) ← twoDigits? 0 23 cs
  let (_, rest) ← twoDigits? 0 59 (← after? ':' rest)
  let (_, rest) ← twoDigits? 0 59 (← after? ':' rest)
  pure (afterFraction rest)

/-- The text after the hours and minutes that a text starts with. -/
def afterDistance? (cs : List Char) : Option (List Char) := do
  let (_, rest) ← twoDigits? 0 23 cs
  let (_, rest) ← twoDigits? 0 59 (← after? ':' rest)
  pure rest

/-- The text after the distance from universal time, if there is one. -/
def afterZone : List Char → List Char
  | c :: rest =>
      if c == 'Z' || c == 'z' then rest
      else if c == '+' || c == '-' then (afterDistance? rest).getD (c :: rest)
      else c :: rest
  | [] => []

/-- The text after the time of a date, if there is one. -/
def afterTimeOfDate? : List Char → Option (List Char)
  | c :: rest =>
      if c == 'T' || c == 't' || c == ' ' then (afterTime? rest).map afterZone else none
  | [] => none

/-! ## Moments -/

/-- A moment that takes up a text but for the rest of it. -/
def momentBefore (kind : MomentKind) (cs rest : List Char) : Json × List Char :=
  (.moment kind (String.ofList (cs.take (cs.length - rest.length))), rest)

/-- The date or time at the start of a text, and the text after it; `none` if there is no
such thing, and an error if there is a date that the calendar has not. -/
def readMoment? (cs : List Char) : Option (Except Fault (Json × List Char)) :=
  match date? cs with
  | some (date, rest) =>
      if date.isValid then
        match afterTimeOfDate? rest with
        | some rest' => some (.ok (momentBefore .dateTime cs rest'))
        | none => some (.ok (momentBefore .date cs rest))
      else some (.error .noDate)
  | none => (afterTime? cs).map fun rest => .ok (momentBefore .time cs rest)

end FuzzSynth.Toml

/-
Assignments on the command line.

An assignment `key=value` sets one member of the configuration.  The text of the
value decides what it stands for: the words `true` and `false` in any case are
flags, a text with a comma is a list of texts, one with a point a floating-point
number, any other a whole number; what cannot be read as a number stays a text.
-/
import FuzzSynth.Json.Value
import FuzzSynth.Log
import FuzzSynth.Markup
import FuzzSynth.Text.Blank
import FuzzSynth.Text.Numeral
import FuzzSynth.Text.Split

namespace FuzzSynth.Config

open FuzzSynth.Text

/-- The texts between commas, without those that are blank. -/
def listed (cs : List Char) : List String :=
  (((splitAll ',' cs).map trim).filter fun part => !part.isEmpty).map String.ofList

/-- A whole number in digits of any script, unless it is too long. -/
def wholeNumber? (cs : List Char) : Option Int :=
  let (negative, unsigned) := splitSign cs
  (groupedDigits? decimalValue? unsigned).bind fun digits =>
    if digits.length ≤ digitLimit then some (withSign negative (ofDigits 10 digits)) else none

/-- What the text of a value stands for. -/
def valueOfText (cs : List Char) : Json :=
  let word := cs.map Char.toLower
  if word = "true".toList then .bool true
  else if word = "false".toList then .bool false
  else if cs.contains ',' then .array ((listed cs).map .string)
  else if cs.contains '.' then
    match decimalParts? decimalValue? cs with
    | some parts => .float parts.nearest
    | none => .string (String.ofList cs)
  else
    match wholeNumber? cs with
    | some n => .int n
    | none => .string (String.ofList cs)

/-- The key and the value of an assignment; a text without `=` is none. -/
def assignment? (item : String) : Option (String × Json) :=
  match splitAt? (· == '=') item.toList with
  | (key, some value) => some (String.ofList (trim key), valueOfText (trim value))
  | (_, none) => none

/-- The record of a text that is no assignment. -/
def ignoredEntry (markup : Markup) (item : String) : LogEntry :=
  .notice .warning
    ("Ignoring invalid config format: '" ++ markup.escape item ++ "'. Expected 'key=value'.")

/-- The members that a list of texts assigns; the last assignment to a key counts. -/
def assignments (items : List String) : List (String × Json) :=
  Json.overlay [] (items.filterMap assignment?)

/-- The record of the texts that are no assignments. -/
def assignmentLog (markup : Markup) (items : List String) : Log :=
  (items.filter fun item => (assignment? item).isNone).map (ignoredEntry markup)

end FuzzSynth.Config

/-
Checking numbers, flags and choices.

Settings come from files and from command lines, so a number may also be given as
text, and a flag as a number or as a word.  A number with a fraction is no whole
number, and neither is one that is infinite or undefined.
-/
import FuzzSynth.Cap
import FuzzSynth.Text.Points
import FuzzSynth.Validation.WholeText

namespace FuzzSynth.Validation

/-- A text that is to be read; it may have no surrogate that stands alone. -/
def unbroken (s : String) : Checked String :=
  if Text.hasUnpaired s then refuse .brokenString else .ok s

/-! ## Whole numbers -/

/-- The least magnitude that a number in a machine word may not have. -/
def wordLimit : Int := (Nat.pow 2 63 : Nat)

/-- A whole number given as a floating-point number. -/
def wholeOfFloat (x : Binary64) : Checked Int :=
  if !x.isFinite then refuse .notFinite
  else
    match x.toInt? with
    | some n => if -wordLimit < n ∧ n < wordLimit then .ok n else refuse .oversizedInteger
    | none => refuse .fractionalInteger

/-- A whole number. -/
def checkWhole : Json → Checked Int
  | .int n => .ok n
  | .bool b => .ok (if b then 1 else 0)
  | .float x => wholeOfFloat x
  | .string s => unbroken s >>= wholeOfText
  | _ => refuse .notInteger

/-- A whole number that is not negative. -/
def checkNat (value : Json) : Checked Nat := do
  let n ← checkWhole value
  if 0 ≤ n then .ok n.toNat else refuse (.below 0)

/-- A whole number of at least one. -/
def checkCap (value : Json) : Checked Cap := do
  let n ← checkWhole value
  if h : 1 ≤ n then .ok ⟨n.toNat, by omega⟩ else refuse (.below 1)

/-! ## Flags and choices -/

/-- The words for false. -/
def falseWords : List String := ["0", "off", "f", "false", "n", "no"]

/-- The words for true. -/
def trueWords : List String := ["1", "on", "t", "true", "y", "yes"]

/-- A flag written as a word, in upper or lower case. -/
def flagOfText (s : String) : Checked Bool :=
  let word := String.ofList (s.toList.map Char.toLower)
  if trueWords.contains word then .ok true
  else if falseWords.contains word then .ok false
  else refuse .unreadableBoolean

/-- A flag given as a whole number. -/
def flagOfWhole (n : Int) : Checked Bool :=
  if n = 1 then .ok true else if n = 0 then .ok false else refuse .unreadableBoolean

/-- A flag; a number that fits no machine word is not even taken for an attempt at one. -/
def checkFlag : Json → Checked Bool
  | .bool b => .ok b
  | .int n => if -wordLimit ≤ n ∧ n < wordLimit then flagOfWhole n else refuse .notBoolean
  | .float x =>
      match x.toInt? with
      | some n => if -wordLimit < n ∧ n < wordLimit then flagOfWhole n else refuse .notBoolean
      | none => refuse .notBoolean
  | .string s => unbroken s >>= flagOfText
  | _ => refuse .notBoolean

/-- One of several named choices; `names` lists them for the message. -/
def checkChoice {α : Type} (ofName? : String → Option α) (names : String) : Json → Checked α
  | .string s => do
      match ofName? (← unbroken s) with
      | some choice => .ok choice
      | none => refuse (.notAmong names)
  | _ => refuse (.notAmong names)

/-- A list of texts; a single text stands for a list of one. -/
def checkOneOrMore : Json → Checked (List String)
  | .string s => .ok [s]
  | value => checkList checkString value

end FuzzSynth.Validation

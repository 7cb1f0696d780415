/-
Checking structured values.

A value from outside is checked against what is expected of it.  A check does not
stop at the first thing that is wrong: it gives either a result or all the issues,
in order, each with the place where it was found.
-/
import FuzzSynth.Json.Value
import FuzzSynth.Json.Writer

namespace FuzzSynth.Validation

/-- A step on the way to a part of a value. -/
inductive Place where
  | key (name : String)
  | index (n : Nat)
  deriving DecidableEq, Repr, Inhabited

/-- What can be wrong with a value. -/
inductive Fault where
  | missing
  | notString
  /-- A string with a surrogate that stands alone. -/
  | brokenString
  | notList
  /-- Neither an object nor a value of the named model. -/
  | notModel (model : String)
  | notInteger
  | unreadableInteger
  | oversizedInteger
  | fractionalInteger
  | notFinite
  | notBoolean
  | unreadableBoolean
  | below (least : Int)
  /-- None of the listed choices. -/
  | notAmong (choices : String)
  | unknownKey
  deriving DecidableEq, Repr, Inhabited

namespace Fault

/-- The name of a fault. -/
def name : Fault → String
  | missing => "missing"
  | notString => "string_type"
  | brokenString => "string_unicode"
  | notList => "list_type"
  | notModel _ => "model_type"
  | notInteger => "int_type"
  | unreadableInteger => "int_parsing"
  | oversizedInteger => "int_parsing_size"
  | fractionalInteger => "int_from_float"
  | notFinite => "finite_number"
  | notBoolean => "bool_type"
  | unreadableBoolean => "bool_parsing"
  | below _ => "greater_than_equal"
  | notAmong _ => "enum"
  | unknownKey => "extra_forbidden"

/-- What is said about a fault. -/
def message : Fault → String
  | missing => "Field required"
  | notString => "Input should be a valid string"
  | brokenString =>
      "Input should be a valid string, unable to parse raw data as a unicode string"
  | notList => "Input should be a valid list"
  | notModel model => "Input should be a valid dictionary or instance of " ++ model
  | notInteger => "Input should be a valid integer"
  | unreadableInteger => "Input should be a valid integer, unable to parse string as an integer"
  | oversizedInteger => "Unable to parse input string as an integer, exceeded maximum size"
  | fractionalInteger => "Input should be a valid integer, got a number with a fractional part"
  | notFinite => "Input should be a finite number"
  | notBoolean => "Input should be a valid boolean"
  | unreadableBoolean => "Input should be a valid boolean, unable to interpret input"
  | below least => "Input should be greater than or equal to " ++ Json.intText least
  | notAmong choices => "Input should be " ++ choices
  | unknownKey => "Extra inputs are not permitted"

end Fault

/-- A fault and the place where it was found. -/
structure Issue where
  place : List Place
  fault : Fault
  deriving DecidableEq, Repr, Inhabited

/-- How many issues a model has, in words. -/
def summary (model : String) (issues : List Issue) : String :=
  Json.intText issues.length ++
    (if issues.length = 1 then " validation error for " else " validation errors for ") ++ model

/-- A checked value, or all that is wrong with it. -/
abbrev Checked (α : Type) := Except (List Issue) α

/-- A fault at the place of the value itself. -/
def refuse {α : Type} (fault : Fault) : Checked α :=
  .error [⟨[], fault⟩]

/-- The result of a check at a place inside a larger value. -/
def within {α : Type} (place : Place) : Checked α → Checked α
  | .ok a => .ok a
  | .error issues => .error (issues.map fun issue => { issue with place := place :: issue.place })

/-- Two checks after each other; the issues of both count. -/
def both {α β : Type} : Checked α → Checked β → Checked (α × β)
  | .ok a, .ok b => .ok (a, b)
  | .ok _, .error issues => .error issues
  | .error issues, .ok _ => .error issues
  | .error issues, .error more => .error (issues ++ more)

/-- All of several checks; the issues of each count. -/
def checkAll {α : Type} : List (Checked α) → Checked (List α)
  | [] => .ok []
  | a :: rest => (both a (checkAll rest)).map fun (a, as) => a :: as

/-- A string. -/
def checkString : Json → Checked String
  | .string s => .ok s
  | _ => refuse .notString

/-- A list. -/
def checkList {α : Type} (check : Json → Checked α) : Json → Checked (List α)
  | .array values => checkAll (values.mapIdx fun i value => within (.index i) (check value))
  | _ => refuse .notList

/-- The members of an object that describes the named model. -/
def checkModel {α : Type} (model : String) (check : List (String × Json) → Checked α) :
    Json → Checked α
  | .object members => check members
  | _ => refuse (.notModel model)

/-- A member that has to be there. -/
def required {α : Type} (key : String) (check : Json → Checked α) (members : List (String × Json)) :
    Checked α :=
  within (.key key) <|
    match Json.member? key members with
    | some value => check value
    | none => refuse .missing

/-- A member that has a default. -/
def optional {α : Type} (key : String) (default : α) (check : Json → Checked α)
    (members : List (String × Json)) : Checked α :=
  match Json.member? key members with
  | some value => within (.key key) (check value)
  | none => .ok default

end FuzzSynth.Validation

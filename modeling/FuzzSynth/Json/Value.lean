/-
Structured values.

`Json` holds what a JSON document can hold, with whole and floating-point numbers
apart, and besides the dates and times of other formats.  The members of an object are
in order and have different keys.  Strings are kept by their code points, so one may
hold surrogates that stand alone.
-/
import FuzzSynth.Binary64.Basic

namespace FuzzSynth

/-- What kind of moment is meant. -/
inductive MomentKind where
  | date
  | time
  /-- A date with a time. -/
  | dateTime
  deriving DecidableEq, Repr, Inhabited

/-- A structured value. -/
inductive Json where
  | null
  | bool (value : Bool)
  | int (value : Int)
  | float (value : Binary64)
  | string (value : String)
  /-- A date or a time, as it was written. -/
  | moment (kind : MomentKind) (text : String)
  | array (elements : List Json)
  | object (members : List (String × Json))
  deriving Inhabited, Repr

namespace Json

/-- Sets a member: a key that is there keeps its place, a new one comes last. -/
def setMember {α : Type} (key : String) (value : α) : List (String × α) → List (String × α)
  | [] => [(key, value)]
  | (k, v) :: rest => if k = key then (k, value) :: rest else (k, v) :: setMember key value rest

/-- The value of a member. -/
def member? {α : Type} (key : String) : List (String × α) → Option α
  | [] => none
  | (k, v) :: rest => if k = key then some v else member? key rest

/-- The members of the first object with those of the second set on top. -/
def overlay {α : Type} (base top : List (String × α)) : List (String × α) :=
  top.foldl (fun members entry => setMember entry.1 entry.2 members) base

end Json

end FuzzSynth

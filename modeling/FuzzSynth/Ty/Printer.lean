/-
Writing types.

`Ty.render` writes a type in Rust notation: `&T`, `&mut T`, `[T]`, `[T; N]`,
`(A, B)`, `(A,)`, `Name<A, B>`.  A parameter is written by its name.
-/
import FuzzSynth.Ty.Basic

namespace FuzzSynth

/-- Texts joined by a comma and a space. -/
def commaJoin : List (List Char) → List Char
  | [] => []
  | [only] => only
  | first :: rest => first ++ ',' :: ' ' :: commaJoin rest

namespace Ty

mutual

/-- The notation of a type, as characters. -/
def chars : Ty → List Char
  | node f true _ => f.label.toList
  | node .ref false as => '&' :: firstChars as
  | node .refMut false as => '&' :: 'm' :: 'u' :: 't' :: ' ' :: firstChars as
  | node .slice false as => '[' :: firstChars as ++ [']']
  | node (.array tail) false as => '[' :: firstChars as ++ ';' :: ' ' :: tail.toList.dropLast ++ [']']
  | node .tuple false [member] => '(' :: chars member ++ [',', ')']
  | node .tuple false as => '(' :: commaJoin (eachChars as) ++ [')']
  | node (.path name) false [] => name.toList
  | node (.path name) false as => name.toList ++ '<' :: commaJoin (eachChars as) ++ ['>']

/-- The notation of the first type of a list. -/
def firstChars : List Ty → List Char
  | [] => []
  | a :: _ => chars a

/-- The notation of each type of a list. -/
def eachChars : List Ty → List (List Char)
  | [] => []
  | a :: as => chars a :: eachChars as

end

/-- The notation of a type. -/
def render (t : Ty) : String :=
  String.ofList t.chars

/-- An inner type that a node should have is not there. -/
inductive Gap where
  /-- Met while writing a type. -/
  | inWriting
  /-- Met while asking what a type is made of. -/
  | inLooking
  deriving DecidableEq, Repr

/-- The notation of a type that may lack inner types. -/
def render? (t : Ty) : Except Gap String :=
  if t.isComplete then .ok t.render else .error .inWriting

theorem eachChars_eq (as : List Ty) : eachChars as = as.map chars := by
  induction as with
  | nil => rfl
  | cons a as ih => simp [eachChars, ih]

end Ty

end FuzzSynth

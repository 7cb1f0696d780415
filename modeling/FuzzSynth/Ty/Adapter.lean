/-
How an output reaches an input.

An output fills an input of the same type directly.  It may also be borrowed, to
fill a reference to its type, or unwrapped, if it is a `Result` or an `Option` and
the input has the type inside.  `unwrapped` gives that inner type.
-/
import FuzzSynth.Ty.Seed

namespace FuzzSynth

/-- How the output of a call is handed to an input. -/
inductive Adapter where
  /-- As it is. -/
  | direct
  /-- By shared reference. -/
  | borrow
  /-- By mutable reference. -/
  | borrowMut
  /-- By the value inside a `Result`. -/
  | unwrapResult
  /-- By the value inside an `Option`. -/
  | unwrapOption
  deriving DecidableEq, Repr, Inhabited

namespace Adapter

/-- The name an adapter is exported under. -/
def name : Adapter → String
  | direct => "direct"
  | borrow => "borrow"
  | borrowMut => "borrow_mut"
  | unwrapResult => "unwrap_result"
  | unwrapOption => "unwrap_option"

/-- Every adapter. -/
def all : List Adapter :=
  [direct, borrow, borrowMut, unwrapResult, unwrapOption]

/-- The adapter of a name. -/
def ofName? (name : String) : Option Adapter :=
  all.find? fun adapter => adapter.name == name

end Adapter

/-- The paths under which `Result` is known with both of its types. -/
def resultPaths : List String :=
  ["Result", "core::result::Result", "std::result::Result"]

/-- The paths of a `Result` whose error type is fixed. -/
def resultAliases : List String :=
  ["io::Result", "std::io::Result"]

namespace Ty

/-- The type inside a `Result` or an `Option`, with the adapter that reaches it. -/
def wrapped? : Ty → Option (Ty × Adapter)
  | node (.path name) _ [inner, _] =>
      if resultPaths.contains name then some (inner, .unwrapResult) else none
  | node (.path name) _ [inner] =>
      if resultAliases.contains name then some (inner, .unwrapResult)
      else if optionPaths.contains name then some (inner, .unwrapOption)
      else none
  | _ => none

/-- The type an output has once unwrapped, unless nothing is left but the unit. -/
def unwrapped (output : Ty) : Option (Ty × Adapter) :=
  output.wrapped?.filter fun inside => !inside.1.isUnit

/-- The type a reference refers to, with the adapter that borrows for it. -/
def borrowed? : Ty → Option (Ty × Adapter)
  | node .ref _ (inner :: _) => some (inner, .borrow)
  | node .refMut _ (inner :: _) => some (inner, .borrowMut)
  | _ => none

end Ty

end FuzzSynth

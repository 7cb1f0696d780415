/-
Drivers.

A driver is a sequence of calls that ends with its target.  Each input of each call
is bound to the output of an earlier call or to a seed, a value that the fuzzing
engine decodes from raw bytes.  `isValid` checks that nothing is used before it is
defined, `describe` outlines the calls, and `toJson?` is the exported form.

Numbers of calls and seeds are whole numbers, so that a driver put together by hand
may also hold one that points nowhere.
-/
import FuzzSynth.Graph

namespace FuzzSynth

/-- Where the value of an input comes from. -/
inductive Binding where
  /-- From a seed. -/
  | seed (index : Int)
  /-- From the output of a call, through an adapter. -/
  | call (index : Int) (adapter : Adapter)
  deriving DecidableEq, Repr, Inhabited

/-- An input that is decoded from raw bytes. -/
structure SeedPoint where
  index : Int
  type : Ty
  /-- The call that takes the value. -/
  call : Int
  /-- The input of that call. -/
  inputIndex : Int
  /-- The bytes it takes; a type that no seed can fill has no layout. -/
  layout : Option SeedLayout
  deriving DecidableEq, Repr, Inhabited

/-- One call of a driver, with the bindings of its inputs in order. -/
structure DriverCall where
  node : Node
  bindings : List Binding
  deriving DecidableEq, Repr, Inhabited

/-- A sequence of calls that ends with its target. -/
structure Driver where
  target : Node
  calls : List DriverCall
  seeds : List SeedPoint
  deriving DecidableEq, Repr, Inhabited

namespace Binding

/-- How the argument is written. -/
def describe : Binding → String
  | seed index => "seed[" ++ Json.intText index ++ "]"
  | call index .direct => "v" ++ Json.intText index
  | call index .borrow => "&v" ++ Json.intText index
  | call index .borrowMut => "&mut v" ++ Json.intText index
  | call index .unwrapResult => "v" ++ Json.intText index ++ ".unwrap()"
  | call index .unwrapOption => "v" ++ Json.intText index ++ ".unwrap()"

/-- The exported form. -/
def toJson : Binding → Json
  | seed index => .object [("kind", .string "seed"), ("index", .int index)]
  | call index adapter =>
      .object [("kind", .string "call"), ("index", .int index), ("adapter", .string adapter.name)]

/-- Whether the binding points to an earlier call or to a seed that is there. -/
def isDefined (position seeds : Nat) : Binding → Bool
  | seed index => 0 ≤ index && index < seeds
  | call index _ => 0 ≤ index && index < position

end Binding

/-- The exported form of a layout. -/
def SeedLayout.toJson (l : SeedLayout) : Json :=
  .object [("min_length", .int l.minLength), ("fixed_length", .bool l.fixedLength),
    ("fixed_part", .int l.fixedPart), ("dynamic_params", .int l.dynamicParams)]

/-- The exported form of a seed; there is none without a layout. -/
def SeedPoint.toJson? (s : SeedPoint) : Option Json :=
  s.layout.map fun layout =>
    .object [("index", .int s.index), ("type", .string s.type.render), ("call", .int s.call),
      ("input_index", .int s.inputIndex), ("layout", layout.toJson)]

/-- The exported form of a call. -/
def DriverCall.toJson (c : DriverCall) : Json :=
  .object [("api", .string c.node.api.key), ("signature", .string c.node.api.render),
    ("bindings", .array (c.bindings.map Binding.toJson))]

namespace Driver

/-- Whether some input is fed from raw bytes. -/
def hasFuzzEntry (d : Driver) : Bool :=
  !d.seeds.isEmpty

/-- The fewest bytes that fill every seed. -/
def minInputLength (d : Driver) : Nat :=
  Sequence.total (d.seeds.map fun s => (s.layout.map SeedLayout.minLength).getD 0)

/-- The keys of the functions called, in increasing order. -/
def apisUsed (d : Driver) : List String :=
  Text.sortedNames (d.calls.map fun c => c.node.api.key)

/-- Whether a call binds each of its inputs, to something defined before it. -/
def callIsValid (seeds : Nat) (position : Nat) (c : DriverCall) : Bool :=
  c.bindings.length == c.node.api.inputTypes.length && c.bindings.all (Binding.isDefined position seeds)

/-- Whether the last call is the target and every call uses only what is defined. -/
def isValid (d : Driver) : Bool :=
  (d.calls.getLast?.any fun last => last.node.place == d.target.place) &&
    (d.calls.mapIdx (callIsValid d.seeds.length)).all id

/-- The outline of a driver, a line for each call. -/
def describe (d : Driver) : List String :=
  d.calls.mapIdx fun position c =>
    "v" ++ Json.intText position ++ " = " ++ c.node.api.path ++ "(" ++
      ", ".intercalate (c.bindings.map Binding.describe) ++ ")"

/-- The exported form of a driver; there is none if a seed lacks its layout. -/
def toJson? (d : Driver) : Option Json := do
  let seeds ← d.seeds.mapM SeedPoint.toJson?
  pure <| .object [("target", .string d.target.api.key),
    ("calls", .array (d.calls.map DriverCall.toJson)), ("seeds", .array seeds),
    ("min_input_length", .int d.minInputLength)]

end Driver

end FuzzSynth

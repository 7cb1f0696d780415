/-
Signatures.

A signature is the path of a function with its generic parameters, its named
inputs and its output.  `render` writes it the way it is declared:
`first<T: Clone>(v: Vec<T>) -> T`.
-/
import FuzzSynth.Bound.Basic
import FuzzSynth.Ty.Printer

namespace FuzzSynth

/-- A type parameter of one function. -/
structure GenericParam where
  name : String
  /-- The place among the type parameters of the function. -/
  position : Nat
  bounds : BoundSet
  /-- The path of the function. -/
  owner : String
  deriving DecidableEq, Repr, Inhabited

/-- The parameter with its bounds. -/
def GenericParam.render (p : GenericParam) : String :=
  if p.bounds.names.isEmpty then p.name else p.name ++ ": " ++ p.bounds.render

/-- The signature of a function. -/
structure Signature where
  path : String
  generics : List GenericParam
  /-- The inputs with their names, in order. -/
  inputs : List (String × Ty)
  output : Ty
  deriving DecidableEq, Repr, Inhabited

namespace Signature

/-- Whether a type has to be chosen for some parameter. -/
def isGeneric (s : Signature) : Bool :=
  !s.generics.isEmpty

/-- The types of the inputs. -/
def inputTypes (s : Signature) : List Ty :=
  s.inputs.map Prod.snd

/-- The types of the inputs and the output. -/
def types (s : Signature) : List Ty :=
  s.inputTypes ++ [s.output]

/-- The names of the parameters that the types refer to, in order of first occurrence. -/
def referencedParams (s : Signature) : List String :=
  Sequence.distinct (s.types.flatMap Ty.slots)

/-- The parameters of a signature between angle brackets. -/
def renderGenerics (s : Signature) : String :=
  if s.generics.isEmpty then ""
  else "<" ++ ", ".intercalate (s.generics.map GenericParam.render) ++ ">"

/-- The inputs and the output. -/
def renderTypes (s : Signature) : String :=
  let inputs := ", ".intercalate (s.inputs.map fun input => input.1 ++ ": " ++ input.2.render)
  "(" ++ inputs ++ ")" ++ if s.output.isUnit then "" else " -> " ++ s.output.render

/-- The signature as it is declared. -/
def render (s : Signature) : String :=
  s.path ++ s.renderGenerics ++ s.renderTypes

end Signature

end FuzzSynth

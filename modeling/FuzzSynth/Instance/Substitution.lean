/-
Substitutions and instances.

A substitution pairs the parameters of a signature with candidates.  Applying it
gives an instance: the signature with every parameter replaced, all at once, by the
type of its candidate.  An instance of a function without parameters is the
function itself.
-/
import FuzzSynth.Pool
import FuzzSynth.Signature.Basic

namespace FuzzSynth

/-- A choice of candidates for the parameters of one signature. -/
structure Substitution where
  /-- The parameters with their candidates, in order of position. -/
  pairs : List (GenericParam × Candidate)
  deriving DecidableEq, Repr, Inhabited

namespace Substitution

/-- The substitution of a signature without parameters. -/
def empty : Substitution := ⟨[]⟩

/-- Pairs parameters with candidates; the shorter list ends the pairing. -/
def ofLists (params : List GenericParam) (candidates : List Candidate) : Substitution :=
  ⟨params.zip candidates⟩

/-- The type that stands for a parameter name. -/
def typeFor (σ : Substitution) (name : String) : Option Ty :=
  (σ.pairs.find? fun pair => pair.1.name == name).map fun pair => pair.2.type

/-- The candidate chosen for a parameter. -/
def candidateFor? (σ : Substitution) (param : GenericParam) : Option Candidate :=
  (σ.pairs.find? fun pair => pair.1 == param).map Prod.snd

/-- The candidates, in order. -/
def candidates (σ : Substitution) : List Candidate :=
  σ.pairs.map Prod.snd

/-- The types put in, in order. -/
def types (σ : Substitution) : List Ty :=
  σ.pairs.map fun pair => pair.2.type

/-- The types put in, each with the position of its parameter. -/
def coverage (σ : Substitution) : List (Nat × Ty) :=
  σ.pairs.map fun pair => (pair.1.position, pair.2.type)

/-- Whether each candidate satisfies the bounds of its parameter. -/
def isSound (σ : Substitution) : Bool :=
  σ.pairs.all fun pair => pair.2.satisfies pair.1.bounds

/-- The pairs as `T=i32, U=u8`. -/
def render (σ : Substitution) : String :=
  ", ".intercalate (σ.pairs.map fun pair => pair.1.name ++ "=" ++ pair.2.key)

end Substitution

/-- A function with a type for each of its parameters. -/
structure Instance where
  /-- The function as declared. -/
  declaration : Signature
  substitution : Substitution
  /-- The function with its parameters replaced. -/
  signature : Signature
  deriving DecidableEq, Repr, Inhabited

/-- Puts the types of a substitution in for the parameters. -/
def Signature.subst (api : Signature) (σ : Substitution) : Signature where
  path := api.path
  generics := []
  inputs := api.inputs.map fun input => (input.1, input.2.subst σ.typeFor)
  output := api.output.subst σ.typeFor

/-- The instance of a function under a substitution. -/
def Signature.instanceOf (api : Signature) (σ : Substitution) : Instance :=
  ⟨api, σ, api.subst σ⟩

namespace Instance

/-- The path of the function. -/
def path (m : Instance) : String := m.signature.path

/-- The named inputs. -/
def inputs (m : Instance) : List (String × Ty) := m.signature.inputs

/-- The types of the inputs. -/
def inputTypes (m : Instance) : List Ty := m.signature.inputTypes

/-- The output type. -/
def output (m : Instance) : Ty := m.signature.output

/-- The name of the instance, such as `demo::first<T=i32>`. -/
def key (m : Instance) : String :=
  if m.substitution.pairs.isEmpty then m.path
  else m.path ++ "<" ++ m.substitution.render ++ ">"

/-- The signature of the instance. -/
def render (m : Instance) : String := m.signature.render

end Instance

end FuzzSynth

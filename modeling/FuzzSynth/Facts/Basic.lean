/-
Declaration facts.

Facts describe the functions of a library as text: the path of each function, its
generic parameters with their bounds, its inputs and its output.  Candidate facts
offer further types to put in for parameters.  Nothing is known yet about whether
the texts are well formed.
-/
namespace FuzzSynth

/-- A declared generic parameter and its bounds. -/
structure GenericFact where
  name : String
  bounds : List String
  deriving DecidableEq, Repr, Inhabited

/-- One input of a function. -/
structure InputFact where
  name : String
  type : String
  deriving DecidableEq, Repr, Inhabited

/-- A declared function. -/
structure ApiFact where
  path : String
  generics : List GenericFact
  inputs : List InputFact
  /-- The output type; a function without one returns the unit. -/
  output : Option String
  deriving DecidableEq, Repr, Inhabited

/-- A concrete type offered for substitution. -/
structure CandidateFact where
  type : String
  bounds : List String
  deriving DecidableEq, Repr, Inhabited

/-- Everything that is known about one library. -/
structure Document where
  crate : String
  apis : List ApiFact
  candidates : List CandidateFact
  deriving DecidableEq, Repr, Inhabited

end FuzzSynth

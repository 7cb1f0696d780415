/-
Settings of the search.

The caps are whole numbers: one at or below zero is allowed and simply leaves
nothing to do.
-/
namespace FuzzSynth

/-- Which of several producers of one input is tried first. -/
inductive TieBreak where
  /-- The one called in the fewest drivers found so far for this target. -/
  | diversity
  /-- The one with the fewest inputs. -/
  | shortest
  /-- The one declared first. -/
  | declaration
  deriving DecidableEq, Repr, Inhabited

namespace TieBreak

/-- The name of a policy. -/
def name : TieBreak → String
  | diversity => "diversity"
  | shortest => "shortest"
  | declaration => "declaration"

/-- Every policy. -/
def all : List TieBreak :=
  [diversity, shortest, declaration]

/-- The policy of a name. -/
def ofName? (name : String) : Option TieBreak :=
  all.find? fun policy => policy.name == name

end TieBreak

/-- How the search for drivers of one target goes about. -/
structure SearchSettings where
  /-- The deepest level of a producer below the target. -/
  maxDepth : Int
  /-- The drivers accepted for one target. -/
  maxDrivers : Int
  /-- The producers tried for one input. -/
  maxBranching : Int
  /-- The calls in one driver. -/
  maxCalls : Int
  /-- The steps taken for one target. -/
  maxExpansions : Int
  tieBreak : TieBreak
  /-- Whether a driver without seeds is refused. -/
  requireSeed : Bool
  /-- Whether a seed is tried even for inputs that have producers. -/
  offerSeed : Bool
  deriving DecidableEq, Repr, Inhabited

end FuzzSynth

/-
The configuration of a run.

A configuration holds the caps and policies of all stages.  It can only be built
with caps that leave something to do; `limits`, `adapters` and `settings` are the
parts that the single stages need.
-/
import FuzzSynth.Cap
import FuzzSynth.Graph
import FuzzSynth.Instance.Instantiate
import FuzzSynth.Search.Settings

namespace FuzzSynth

/-- The caps and policies of a run. -/
structure Config where
  /-- The instances kept of each generic function. -/
  maxInstances : Cap := 3
  /-- The deepest level of a producer below the target. -/
  maxDepth : Nat := 5
  /-- The drivers accepted for each target. -/
  maxDrivers : Cap := 8
  tieBreak : TieBreak := .diversity
  /-- The producers tried for each input. -/
  maxBranching : Cap := 4
  /-- The calls in one driver. -/
  maxCalls : Cap := 16
  /-- The steps of the search for each target. -/
  maxExpansions : Cap := 10000
  /-- The deepest output type of an instance. -/
  maxTypeDepth : Cap := 5
  /-- The substitutions tried for each generic function. -/
  maxProductScan : Cap := 4096
  /-- Whether a value may fill an input that takes a reference to it. -/
  borrow : Bool := false
  /-- Whether the value inside a result or an option may fill an input. -/
  unwrap : Bool := false
  /-- Whether a driver without seeds is refused. -/
  requireSeed : Bool := false
  /-- Whether a seed is tried even for inputs that have producers. -/
  offerSeed : Bool := false
  /-- How many functions may be worked on at a time; what comes out does not depend on it. -/
  workers : Cap := 1
  /-- The paths of the targets; with none given, every function is a target. -/
  targets : List String := []
  deriving DecidableEq, Repr

namespace Config

instance : Inhabited Config := ⟨{}⟩

/-- The caps on instantiation. -/
def limits (c : Config) : InstanceLimits :=
  ⟨c.maxInstances.value, c.maxTypeDepth.value, c.maxProductScan.value⟩

/-- The adapters of the dependency graph. -/
def adapters (c : Config) : AdapterChoice :=
  ⟨c.borrow, c.unwrap⟩

/-- The settings of the search. -/
def settings (c : Config) : SearchSettings where
  maxDepth := c.maxDepth
  maxDrivers := c.maxDrivers.value
  maxBranching := c.maxBranching.value
  maxCalls := c.maxCalls.value
  maxExpansions := c.maxExpansions.value
  tieBreak := c.tieBreak
  requireSeed := c.requireSeed
  offerSeed := c.offerSeed

end Config

end FuzzSynth

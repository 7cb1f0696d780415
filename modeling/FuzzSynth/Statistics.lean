/-
Run statistics.

The counters of a run, with the average number of instances of a generic function,
which leaves out the functions that have none.
-/
import FuzzSynth.Json.Writer
import FuzzSynth.Table

namespace FuzzSynth

/-- The counters of one run. -/
structure Statistics where
  functions : Int
  genericFunctions : Int
  /-- The generic functions that have an instance. -/
  monomorphizedFunctions : Int
  monoInstances : Int
  dependencyEdges : Int
  targets : Int
  drivers : Int
  seedPoints : Int
  /-- The number of diagnostics of each kind, by name. -/
  diagnostics : List (String × Int)
  deriving DecidableEq, Repr, Inhabited

namespace Statistics

/-- The instances of generic functions. -/
def genericInstances (s : Statistics) : Int :=
  s.monoInstances - (s.functions - s.genericFunctions)

/-- The average number of instances of a generic function that has any; there is none if
the quotient is too large for a floating-point number. -/
def instancesPerGeneric? (s : Statistics) : Option Binary64 :=
  if s.monomorphizedFunctions = 0 then some (.zero false)
  else
    let average := Binary64.ofQuotient s.genericInstances s.monomorphizedFunctions
    if average.isFinite then some average else none

/-- The average as it is exported, with three decimal places. -/
def exportedAverage (average : Binary64) : Binary64 :=
  average.roundPlaces 3

/-- The counters in the order in which they are exported, without the average. -/
def counters (s : Statistics) : List (String × Json) :=
  [("functions", .int s.functions), ("generic_functions", .int s.genericFunctions),
   ("monomorphized_functions", .int s.monomorphizedFunctions), ("mono_instances", .int s.monoInstances),
   ("dependency_edges", .int s.dependencyEdges), ("targets", .int s.targets),
   ("drivers", .int s.drivers), ("seed_points", .int s.seedPoints),
   ("diagnostics", .object (s.diagnostics.map fun (kind, n) => (kind, .int n)))]

/-- The exported form. -/
def toJson? (s : Statistics) : Option Json :=
  s.instancesPerGeneric?.map fun average =>
    .object (s.counters ++ [("mono_per_function", .float (exportedAverage average))])

/-- The counters as a table of two columns. -/
def table? (s : Statistics) : Option Table :=
  s.instancesPerGeneric?.map fun average =>
    { title := "Synthesis Summary"
      columns := ["Metric", "Value"]
      rows :=
        [["Functions", Json.intText s.functions],
         ["Generic functions", Json.intText s.genericFunctions],
         ["Monomorphized generics", Json.intText s.monomorphizedFunctions],
         ["Monomorphic APIs", Json.intText s.monoInstances],
         ["Instances per generic", average.fixedText 2],
         ["Dependency edges", Json.intText s.dependencyEdges],
         ["Targets", Json.intText s.targets],
         ["Drivers", Json.intText s.drivers],
         ["Seed points", Json.intText s.seedPoints]] ++
        s.diagnostics.map fun (kind, n) => ["[yellow]" ++ kind ++ "[/yellow]", Json.intText n] }

end Statistics

end FuzzSynth

/-
Synthesis.

One run takes the functions of a library from their signatures to drivers: every
function is instantiated, the instances are linked into a dependency graph, and for
each target drivers are searched.  A `Synthesis` holds what each stage gave; the
report, the statistics and the record of the run are read off from it.

A run fails if its scan window is no size, or if a diagnostic states a cap that has too
many digits to be written.  The stack, the memory and the number of threads are taken to be
as large as needed.
-/
import FuzzSynth.Config.Basic
import FuzzSynth.Markup
import FuzzSynth.Search.Run
import FuzzSynth.Signature.Surface
import FuzzSynth.Statistics

namespace FuzzSynth

/-- What the stages of a run gave. -/
structure Synthesis where
  surface : Surface
  /-- What came of each function of the surface, in order. -/
  parts : List Instantiation
  graph : Graph
  /-- The wanted targets that no instance belongs to. -/
  unknownTargets : List String
  /-- What the search found for each target. -/
  outcomes : List Outcome
  deriving Inhabited

namespace Synthesis

/-! ## Running -/

/-- The wanted paths that no instance belongs to. -/
def unknownPaths (wanted : List String) (nodes : List Node) : List String :=
  wanted.filter fun path => !nodes.any fun n => n.api.path == path

/-- The nodes that are targets. -/
def targetsAmong (wanted : List String) (nodes : List Node) : List Node :=
  if wanted.isEmpty then nodes else nodes.filter fun n => wanted.contains n.api.path

/-- Links instances and searches for drivers. -/
def ofParts (config : Config) (surface : Surface) (parts : List Instantiation) : Synthesis :=
  let graph := Graph.build config.adapters (Instantiation.concat parts).instances
  { surface
    parts
    graph
    unknownTargets := unknownPaths config.targets graph.nodes
    outcomes := (targetsAmong config.targets graph.nodes).map (config.settings.search graph) }

/-- Whether the messages of all searches can be written. -/
def canReport (s : Synthesis) : Bool :=
  s.outcomes.all fun outcome => outcome.report.isWritable

/-- A whole run. -/
def run (config : Config) (pool : Pool) (surface : Surface) : Except RunError Synthesis :=
  match pool.instantiateEach config.limits surface.apis with
  | .error e => .error e
  | .ok parts =>
      let s := ofParts config surface parts
      if s.canReport then .ok s else .error .digits

/-! ## Results -/

/-- The instances, in order. -/
def instances (s : Synthesis) : List Instance :=
  s.graph.nodes.map Node.api

/-- The drivers, grouped by target. -/
def drivers (s : Synthesis) : List Driver :=
  s.outcomes.flatMap Outcome.drivers

/-- The drivers of the targets with a key. -/
def driversFor (s : Synthesis) (key : String) : List Driver :=
  s.drivers.filter fun d => d.target.api.key == key

/-- The diagnostics of all stages, in the order of the stages. -/
def report (s : Synthesis) : Report :=
  s.surface.rejected ++ s.parts.flatMap Instantiation.report ++ s.outcomes.flatMap Outcome.report

/-- The instances of each generic function. -/
def genericParts (s : Synthesis) : List (List Instance) :=
  ((s.surface.apis.zip s.parts).filter fun entry => entry.1.isGeneric).map fun entry => entry.2.instances

/-- The counters of the run. -/
def statistics (s : Synthesis) : Statistics where
  functions := s.surface.apis.length
  genericFunctions := s.genericParts.length
  monomorphizedFunctions := s.genericParts.countP fun part => !part.isEmpty
  monoInstances := Sequence.total (s.parts.map fun part => part.instances.length)
  dependencyEdges := s.graph.edges.length
  targets := s.outcomes.length
  drivers := s.drivers.length
  seedPoints := Sequence.total (s.drivers.map fun d => d.seeds.length)
  diagnostics := s.report.counts.map fun (kind, n) => (kind.name, n)

/-! ## The record -/

/-- The record of the instantiation of all functions. -/
def instancesEntry (functions instances : Nat) : LogEntry :=
  ⟨.info, "Monomorphized " ++ Json.intText functions ++ " APIs into " ++ Json.intText instances ++
    " instances"⟩

/-- The record of the size of the graph. -/
def edgesEntry (edges : Nat) : LogEntry :=
  ⟨.info, "Dependency graph has " ++ Json.intText edges ++ " edges"⟩

/-- The record of a wanted target that no instance belongs to. -/
def unknownTargetEntry (markup : Markup) (path : String) : LogEntry :=
  .notice .warning
    ("Target '" ++ markup.escape path ++ "' has no monomorphic instance; ignoring it.")

/-- The record of the run. -/
def log (markup : Markup) (s : Synthesis) : Log :=
  s.parts.flatMap Instantiation.log ++
    [instancesEntry s.surface.apis.length s.instances.length] ++
    s.graph.log ++
    [edgesEntry s.graph.edges.length] ++
    s.unknownTargets.map (unknownTargetEntry markup) ++
    s.outcomes.flatMap Outcome.log

/-! ## Export -/

/-- The drivers, diagnostics and statistics for export; there is no export if a driver or
the statistics have none. -/
def toJson? (s : Synthesis) : Option (List (String × Json)) := do
  let drivers ← s.drivers.mapM Driver.toJson?
  let statistics ← s.statistics.toJson?
  pure [("drivers", .array drivers), ("diagnostics", s.report.toJson), ("statistics", statistics)]

end Synthesis

end FuzzSynth

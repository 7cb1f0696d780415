/-
What a command may look at.

A command looks at its facts file, at the settings files in and above the folder of
that file, and at what is on the way to the file it writes.  `survey` lists these
locations, so that a tree of them stands for all the files there are.
-/
import FuzzSynth.Command.Request
import FuzzSynth.Config.Source

namespace FuzzSynth

/-- The locations on the way from one location along names, the first one included. -/
def FileTree.stops (here : Location) : List String → List Location
  | [] => [here]
  | name :: rest => here :: stops (step here name) rest

/-- The locations on the way along a path. -/
def FilePath.stops (base : Location) (path : FilePath) : List Location :=
  FileTree.stops (FileTree.startOf base path) path.steps

namespace Command

/-- The facts file of an action. -/
def Action.facts : Action → FilePath
  | synthesize facts _ _ => .normal facts
  | inspect facts _ _ => .normal facts

/-- The file that an action writes. -/
def Action.out? : Action → Option FilePath
  | synthesize _ out _ => out.map FilePath.normal
  | inspect _ _ _ => none

/-- The settings files of a folder and those above it. -/
def settingsFiles (folder : Location) : List Location :=
  (FileTree.upward folder).map fun loc => loc ++ [Config.settingsFile]

/-- The locations that an action may look at. -/
def Action.survey (base : Location) (a : Action) : List Location :=
  let parents := a.facts.parent.stops base
  let written := (a.out?.map fun path => path.stops base).getD []
  a.facts.stops base ++ settingsFiles (parents.getLast?.getD base) ++ written

end Command

end FuzzSynth

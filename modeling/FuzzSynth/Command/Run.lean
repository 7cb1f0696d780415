/-
Running a request.

`run` does what is asked for in a tree of files and keeps of what is shown the part
that the request wants to see.
-/
import FuzzSynth.Command.Inspect
import FuzzSynth.Command.Request
import FuzzSynth.Command.Synthesize

namespace FuzzSynth.Command

/-- The name and the version of the program. -/
def versionText : String := "monofuzz 0.1.0"

/-- Does what is asked for. -/
def Action.run (host : Host) (tree : FileTree) (base : Location) : Action → Except Failure Finished
  | synthesize facts out items =>
      Command.synthesize host tree base (.normal facts) (out.map FilePath.normal) items
  | inspect facts outline items => Command.inspect host tree base (.normal facts) outline items

/-- Does what is asked for, and shows as much as is wanted. -/
def Request.run (host : Host) (tree : FileTree) (base : Location) (r : Request) :
    Except Failure Finished :=
  (r.action.run host tree base).map fun f =>
    { f with shown := f.shown.filter (Output.isShown r.verbose) }

end FuzzSynth.Command

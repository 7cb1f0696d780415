/-
The command `inspect`.

It shows a table of the instances with their places in the dependency graph, a table
of the diagnostics, and on request the outline of every driver.
-/
import FuzzSynth.Command.Start

namespace FuzzSynth.Command

/-- The row of one instance; `targets` holds the key of the target of each driver. -/
def instanceRow (markup : Markup) (graph : Graph) (targets : List String) (n : Node) : List String :=
  [markup.escape n.api.key, markup.escape n.api.render, Json.intText (graph.producerCount n),
   Json.intText (graph.consumersOf n).length, Json.intText (targets.count n.api.key)]

/-- The instances as a table. -/
def instanceTable (markup : Markup) (s : Synthesis) : Table where
  title := "Monomorphic APIs"
  columns := ["API", "Signature", "Producers", "Consumers", "Drivers"]
  rows := s.graph.nodes.map (instanceRow markup s.graph (s.drivers.map fun d => d.target.api.key))

/-- The diagnostics as a table. -/
def diagnosticTable (markup : Markup) (report : Report) : Table where
  title := "Diagnostics"
  columns := ["Kind", "Subject", "Message"]
  rows := report.map fun d => [d.kind.name, markup.escape d.subject, markup.escape d.message]

/-- The diagnostics, or that there are none. -/
def diagnosticOutput (markup : Markup) (report : Report) : Output :=
  if report.isEmpty then .entry (.notice .success "No diagnostics.")
  else .table (diagnosticTable markup report)

/-- The outline of one driver under its number. -/
def driverOutline (markup : Markup) (number : Nat) (d : Driver) : List Output :=
  .line ("[bold]#" ++ Json.intText number ++ "[/bold] [cyan]" ++ markup.escape d.target.api.key ++
    "[/cyan]") true ::
    d.describe.map fun text => .line ("    " ++ text) false

/-- The outline of every driver. -/
def outlines (markup : Markup) (drivers : List Driver) : List Output :=
  (drivers.mapIdx (driverOutline markup)).flatten

/-- What is shown of a run, after its record. -/
def inspected (markup : Markup) (outline : Bool) (s : Synthesis) : List Output :=
  [.table (instanceTable markup s), diagnosticOutput markup s.report] ++
    if outline then outlines markup s.drivers else []

/-- Runs the command. -/
def inspect (host : Host) (tree : FileTree) (base : Location) (facts : FilePath) (outline : Bool)
    (items : List String) : Except Failure Finished :=
  start host tree base facts items fun p => do
    let (s, log) ← p.run host
    let shown ← host.display (Output.ofLog (p.log ++ log) ++ inspected host.markup outline s)
    .ok ⟨0, shown, tree⟩

end FuzzSynth.Command

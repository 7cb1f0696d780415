/-
The command `synthesize`.

It shows the statistics of a run, and then either a table of the drivers or, if a file
is named, where the drivers have been exported to.
-/
import FuzzSynth.Command.Start
import FuzzSynth.Files.Writing

namespace FuzzSynth.Command

/-- The record of a run that begins. -/
def beginEntry (markup : Markup) (crate : String) : LogEntry :=
  .notice .info ("Synthesizing drivers for crate [code]" ++ markup.escape crate ++ "[/code]...")

/-- The record of how many diagnostics there are; none at all are not worth an entry. -/
def diagnosticsLog (report : Report) : Log :=
  if report.isEmpty then []
  else
    [.notice .warning
      (Json.intText report.length ++ " diagnostics recorded (see 'inspect' for details).")]

/-- The drivers as a table. -/
def driverTable (markup : Markup) (drivers : List Driver) : Table where
  title := "Drivers"
  columns := ["Target", "Calls", "Seeds", "Min bytes"]
  rows := drivers.map fun d =>
    [markup.escape d.target.api.key, Json.intText d.calls.length, Json.intText d.seeds.length,
     Json.intText d.minInputLength]

/-- The record of an export. -/
def exportEntry (markup : Markup) (drivers : Nat) (path : FilePath) : LogEntry :=
  .notice .success
    ("Wrote " ++ Json.intText drivers ++ " drivers to [path]" ++ markup.escape path.text ++ "[/path]")

/-- The text of an exported run. -/
def exportText? (crate : String) (s : Synthesis) : Option String :=
  s.toJson?.map fun members => (Json.object (("crate", .string crate) :: members)).indented

/-- Exports a run. -/
def exportRun (tree : FileTree) (base : Location) (path : FilePath) (crate : String)
    (s : Synthesis) : Except Failure FileTree :=
  match exportText? crate s with
  | none => .error .unexportable
  | some text => (tree.writeWithFolders base path text).mapError .file

/-- Runs the command. -/
def synthesize (host : Host) (tree : FileTree) (base : Location) (facts : FilePath)
    (out : Option FilePath) (items : List String) : Except Failure Finished :=
  start host tree base facts items fun p => do
    let (s, log) ← p.run host
    match s.statistics.table? with
    | none => .error .unexportable
    | some table => do
        let shown ← host.display <|
          Output.ofLog (p.log ++ beginEntry host.markup p.document.crate :: log) ++
            .table table :: Output.ofLog (diagnosticsLog s.report)
        match out with
        | none => do
            let drivers ← host.display [.table (driverTable host.markup s.drivers)]
            .ok ⟨0, shown ++ drivers, tree⟩
        | some path => do
            let tree' ← exportRun tree base path p.document.crate s
            let written ← host.display [.entry (exportEntry host.markup s.drivers.length path)]
            .ok ⟨0, shown ++ written, tree'⟩

end FuzzSynth.Command

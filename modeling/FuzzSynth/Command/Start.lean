/-
How every command starts.

The facts file has to be there, the configuration is the one for the folder it is in,
and both have to be valid; otherwise the user is told what is wrong and the command
ends with code 1.
-/
import FuzzSynth.Command.Host
import FuzzSynth.Config.Assignment
import FuzzSynth.Facts.Source
import FuzzSynth.Synthesis

namespace FuzzSynth

/-- What the user is told about settings that cannot be used; a settings file that has
the wrong shape is not told about. -/
def SettingsError.notice? : SettingsError → Option String
  | tooManyDigits count => some (Text.tooManyDigitsText count)
  | invalid complaint => some (Config.invalidText complaint)
  | toolNotTable _ => none
  | settingsNotTable _ => none

end FuzzSynth

namespace FuzzSynth.Command

/-- What a command works on. -/
structure Prepared where
  config : Config
  document : Document
  /-- The record so far. -/
  log : Log
  deriving Inhabited

/-- Why a command has nothing to work on. -/
inductive Refusal where
  /-- The user has been told. -/
  | told (log : Log)
  | failed (cause : Failure)
  deriving Inhabited

/-- The record of something that is wrong. -/
def wrongEntry (markup : Markup) (message : String) : LogEntry :=
  .notice .error (markup.escape message)

/-- The record of a facts file that is not there. -/
def absentEntry (markup : Markup) (path : FilePath) : LogEntry :=
  .notice .error ("Facts file not found: " ++ markup.escape path.text)

/-- The folder that a path is in. -/
def folderOf (tree : FileTree) (base : Location) (path : FilePath) : Location :=
  match tree.locate base path.parent with
  | .ok folder => folder
  | .error _ => base

/-- The configuration and the facts that a command works on. -/
def prepare (host : Host) (tree : FileTree) (base : Location) (facts : FilePath)
    (items : List String) : Except Refusal Prepared :=
  let noted := Config.assignmentLog host.markup items
  let folder := folderOf tree base facts
  match tree.holds base facts with
  | .error e => .error (.failed (.file e))
  | .ok false => .error (.told (noted ++ [absentEntry host.markup facts]))
  | .ok true =>
    if !host.canReadSettings tree folder then .error (.failed .overflow)
    else
      let loaded := Config.load host.markup host.validator tree base folder (Config.assignments items)
      let log := noted ++ loaded.log
      match loaded.config with
      | .error e =>
          match e.notice? with
          | some message => .error (.told (log ++ [wrongEntry host.markup message]))
          | none => .error (.failed (.settings e))
      | .ok config =>
          if !host.canReadFacts tree base facts then .error (.failed .overflow)
          else
            match Document.load host.validator tree base facts with
            | .error e =>
                .error (.told (log ++ [wrongEntry host.markup (e.message facts.text)]))
            | .ok document => .ok ⟨config, document, log⟩

/-- The run over the facts of a document, and its record. -/
def Prepared.run (host : Host) (p : Prepared) : Except Failure (Synthesis × Log) :=
  let widened := Pool.ofFacts p.document.candidates true
  let surface := Surface.ofDocument p.document
  if host.canRun p.config p.document then
    match Synthesis.run p.config widened.pool surface with
    | .error e => .error (.run e)
    | .ok s => .ok (s, widened.log ++ surface.log ++ s.log host.markup)
  else .error .overflow

/-- Starts a command and goes on with what it works on. -/
def start (host : Host) (tree : FileTree) (base : Location) (facts : FilePath)
    (items : List String) (go : Prepared → Except Failure Finished) : Except Failure Finished :=
  match prepare host tree base facts items with
  | .ok prepared => go prepared
  | .error (.told log) => (host.display (Output.ofLog log)).map fun shown => ⟨1, shown, tree⟩
  | .error (.failed cause) => .error cause

end FuzzSynth.Command

/-
Where the configuration comes from.

Settings are read from the table `tool.monofuzz` of the nearest `pyproject.toml`, in
the folder where the search starts or above it; what is given explicitly counts more.
A file that is not TOML is noted in the record and otherwise ignored, and no file
further up is looked at instead.  A validator decides which settings are accepted.
-/
import FuzzSynth.Files.Tree
import FuzzSynth.Log
import FuzzSynth.Markup
import FuzzSynth.Toml.Document
import FuzzSynth.Validation.Validator

namespace FuzzSynth

/-- Why there is no configuration. -/
inductive SettingsError where
  /-- A number in the settings file has too many digits. -/
  | tooManyDigits (count : Nat)
  /-- The member `tool` is no table. -/
  | toolNotTable (value : Json)
  /-- The member `tool.monofuzz` is no table. -/
  | settingsNotTable (value : Json)
  /-- The settings are not those of a configuration. -/
  | invalid (complaint : Complaint)
  deriving Inhabited

/-- What is said about settings that are not those of a configuration. -/
def Config.invalidText (complaint : Complaint) : String :=
  "Invalid monofuzz configuration: " ++ complaint.text

/-- A configuration or what went wrong, and the record of the attempt. -/
structure Loaded where
  log : Log
  config : Except SettingsError Config

namespace Config

/-- The name of the settings file. -/
def settingsFile : String := "pyproject.toml"

/-- A member that is a table; one that is not there is empty. -/
def tableAt (key : String) (members : List (String × Json)) : Except Json (List (String × Json)) :=
  match Json.member? key members with
  | none => .ok []
  | some (.object inner) => .ok inner
  | some value => .error value

/-- The settings in the members of a document. -/
def settingsOf (document : List (String × Json)) : Except SettingsError (List (String × Json)) :=
  match tableAt "tool" document with
  | .error value => .error (.toolNotTable value)
  | .ok tool => (tableAt "monofuzz" tool).mapError .settingsNotTable

/-- The record of a settings file that is not TOML. -/
def unreadableEntry (markup : Markup) (path : String) (fault : Toml.Fault) : LogEntry :=
  .notice .warning (markup.escape ("Ignoring unreadable " ++ path ++ ": " ++ fault.message))

/-- The configuration of settings with others set on top of them. -/
def ofSettings (validator : Validator) (settings overrides : List (String × Json)) :
    Except SettingsError Config :=
  (validator.config (Json.overlay settings overrides)).mapError .invalid

/-- The configuration for work in a folder. -/
def load (markup : Markup) (validator : Validator) (tree : FileTree) (base folder : Location)
    (overrides : List (String × Json)) : Loaded :=
  match tree.nearest settingsFile folder with
  | none => ⟨[], ofSettings validator [] overrides⟩
  | some (loc, text) =>
      match Toml.read text with
      | .error (.tooManyDigits n) => ⟨[], .error (.tooManyDigits n)⟩
      | .error fault =>
          ⟨[unreadableEntry markup (FileTree.seenFrom base loc) fault],
            ofSettings validator [] overrides⟩
      | .ok document =>
          ⟨[], (settingsOf document).bind fun settings => ofSettings validator settings overrides⟩

/-- The configuration with some members changed. -/
def override (validator : Validator) (c : Config) (overrides : List (String × Json)) :
    Except SettingsError Config :=
  if overrides.isEmpty then .ok c else ofSettings validator c.members overrides

end Config

end FuzzSynth

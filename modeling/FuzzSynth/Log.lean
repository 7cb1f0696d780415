/-
The record of a run.

What happens during a run is recorded as entries with a level.  Detail entries
(`debug`) are shown only on request.  A notice is an entry that is addressed to the
user: it starts with the sign of its level and may hold style tags, so any text
from outside has to be escaped before it is put into one.
-/
namespace FuzzSynth

/-- How important an entry is. -/
inductive Level where
  | debug
  | info
  | success
  | warning
  | error
  | critical
  deriving DecidableEq, Repr, Inhabited

/-- The name of a level. -/
def Level.name : Level → String
  | debug => "DEBUG"
  | info => "INFO"
  | success => "SUCCESS"
  | warning => "WARNING"
  | error => "ERROR"
  | critical => "CRITICAL"

/-- The sign that a notice starts with. -/
def Level.sign : Level → String
  | debug => ""
  | info => "ℹ️  "
  | success => "✅ "
  | warning => "⚠️  "
  | error => "❌ "
  | critical => ""

/-- One entry of the record. -/
structure LogEntry where
  level : Level
  text : String
  deriving DecidableEq, Repr, Inhabited

/-- A record, in order of time. -/
abbrev Log := List LogEntry

/-- An entry addressed to the user. -/
def LogEntry.notice (level : Level) (text : String) : LogEntry :=
  ⟨level, level.sign ++ text⟩

/-- Whether an entry is addressed to the user: it starts with the sign of its level. -/
def LogEntry.isNotice (e : LogEntry) : Bool :=
  !e.level.sign.isEmpty && e.level.sign.toList.isPrefixOf e.text.toList

/-- The entries that are shown. -/
def Log.shown (verbose : Bool) (log : Log) : Log :=
  log.filter fun entry => verbose || entry.level != .debug

end FuzzSynth

/-
Diagnostics.

A failure that a run can recover from becomes a diagnostic: what kind of failure it
is, which API or instance it concerns, and what happened.  A report is a list of
diagnostics in the order in which they were recorded.

Some messages state caps of the configuration.  A cap can be any whole number, but one
with too many digits cannot be written, so a diagnostic holds the caps that its message
states, and `isWritable` tells whether the message could be made.
-/
import FuzzSynth.Json.Value
import FuzzSynth.Text.Numeral

namespace FuzzSynth

/-- What a diagnostic is about. -/
inductive DiagnosticKind where
  /-- An API fact that is no usable signature. -/
  | malformedSignature
  /-- A type parameter that no candidate fits. -/
  | unsatisfiableBounds
  /-- An input that nothing can fill. -/
  | deadEndBinding
  /-- A cap that cut something off. -/
  | budgetExceeded
  deriving DecidableEq, Repr, Inhabited

namespace DiagnosticKind

/-- The name a kind is exported under. -/
def name : DiagnosticKind → String
  | malformedSignature => "malformed_signature"
  | unsatisfiableBounds => "unsatisfiable_bounds"
  | deadEndBinding => "dead_end_binding"
  | budgetExceeded => "budget_exceeded"

/-- Every kind, in the order in which counts are listed. -/
def all : List DiagnosticKind :=
  [malformedSignature, unsatisfiableBounds, deadEndBinding, budgetExceeded]

theorem mem_all (kind : DiagnosticKind) : kind ∈ all := by
  cases kind <;> simp [all]

/-- The kind of a name. -/
def ofName? (name : String) : Option DiagnosticKind :=
  all.find? fun kind => kind.name == name

end DiagnosticKind

/-- One recorded failure. -/
structure Diagnostic where
  kind : DiagnosticKind
  /-- The API, parameter or instance concerned. -/
  subject : String
  message : String
  /-- The caps that the message states. -/
  caps : List Int
  deriving DecidableEq, Repr, Inhabited

/-- Whether every cap that the message states can be written. -/
def Diagnostic.isWritable (d : Diagnostic) : Bool :=
  d.caps.all Text.isWritable

/-- The exported form. -/
def Diagnostic.toJson (d : Diagnostic) : Json :=
  .object [("kind", .string d.kind.name), ("subject", .string d.subject), ("message", .string d.message)]

/-- Diagnostics in the order in which they were recorded. -/
abbrev Report := List Diagnostic

namespace Report

/-- Whether the messages of all diagnostics can be written. -/
def isWritable (report : Report) : Bool :=
  report.all Diagnostic.isWritable

theorem isWritable_iff {report : Report} : report.isWritable = true ↔
    ∀ d ∈ report, ∀ n ∈ d.caps, Text.isWritable n = true := by
  simp [isWritable, Diagnostic.isWritable]

/-- The diagnostics of one kind. -/
def ofKind (report : Report) (kind : DiagnosticKind) : Report :=
  report.filter fun d => d.kind == kind

/-- The number of diagnostics of one kind. -/
def count (report : Report) (kind : DiagnosticKind) : Nat :=
  report.countP fun d => d.kind == kind

/-- The number of diagnostics of each kind. -/
def counts (report : Report) : List (DiagnosticKind × Nat) :=
  DiagnosticKind.all.map fun kind => (kind, report.count kind)

/-- The exported form. -/
def toJson (report : Report) : Json :=
  .array (report.map Diagnostic.toJson)

end Report

end FuzzSynth

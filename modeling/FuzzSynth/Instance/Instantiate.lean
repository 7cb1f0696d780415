/-
Instantiating functions.

A function without parameters has one instance.  For a generic one, a window of
its substitutions is tried; instances whose output nests too deeply are refused,
and a few of the others are selected.  A function that ends up without instances
leaves one diagnostic that says why.  The depth limit that this diagnostic states may
have too many digits to be written; `tryInstantiate` fails then.
-/
import FuzzSynth.Instance.Resolution
import FuzzSynth.Instance.Selection
import FuzzSynth.Json.Writer

namespace FuzzSynth

/-- The caps on instantiation. -/
structure InstanceLimits where
  /-- The instances kept of each generic function. -/
  maxInstances : Int
  /-- The deepest output type allowed. -/
  maxTypeDepth : Int
  /-- The substitutions tried for each generic function. -/
  maxProductScan : Int
  deriving DecidableEq, Repr, Inhabited

/-- A scan window that is not a size. -/
inductive WindowError where
  /-- The window is `-1`, or takes more than 64 bits. -/
  | stop
  /-- The window is below `-1`. -/
  | indices
  deriving DecidableEq, Repr

/-- Why a run gives no result. -/
inductive RunError where
  | window (cause : WindowError)
  /-- A cap that a diagnostic states has too many digits. -/
  | digits
  deriving DecidableEq, Repr

/-- The greatest window. -/
def maxWindow : Int := (Nat.pow 2 63 : Nat) - 1

/-- The size of a scan window. -/
def windowSize (n : Int) : Except WindowError Nat :=
  if 0 ≤ n ∧ n ≤ maxWindow then .ok n.toNat
  else if n = -1 ∨ maxWindow < n ∨ n < -maxWindow - 1 then .error .stop
  else .error .indices

/-- What came of instantiating functions. -/
structure Instantiation where
  instances : List Instance
  report : Report
  log : Log
  deriving Repr, Inhabited

/-- The diagnostic for a function all of whose instances are too deep. -/
def depthDiagnostic (path : String) (limit : Int) : Diagnostic :=
  ⟨.budgetExceeded, path, "Every instance exceeds the type depth limit of " ++ Json.intText limit,
    [limit]⟩

/-- The record of a function that is left out. -/
def skipEntry (path message : String) : LogEntry :=
  ⟨.debug, "Skipping " ++ path ++ ": " ++ message⟩

/-- The record of an instance that is refused. -/
def refusalEntry (m : Instance) : LogEntry :=
  ⟨.debug, "Refusing " ++ m.key ++ ": output " ++ m.output.render ++ " is too deep"⟩

/-- The record of a selection. -/
def selectionEntry (path : String) (selected all : Nat) : LogEntry :=
  ⟨.debug, path ++ ": " ++ Json.intText selected ++ " of " ++ Json.intText all ++ " instances selected"⟩

/-- Whether the output of an instance nests deeper than allowed. -/
def Instance.isTooDeep (m : Instance) (limit : Int) : Bool :=
  limit < m.output.depth

/-- Instantiates a generic function from substitutions. -/
def Signature.instantiateFrom (api : Signature) (limits : InstanceLimits)
    (window : List Substitution) : Instantiation :=
  let tried := window.map api.instanceOf
  let refused := tried.filter fun m => m.isTooDeep limits.maxTypeDepth
  let kept := tried.filter fun m => !m.isTooDeep limits.maxTypeDepth
  let refusals := refused.map refusalEntry
  if kept.isEmpty then
    let d := depthDiagnostic api.path limits.maxTypeDepth
    ⟨[], [d], refusals ++ [skipEntry api.path d.message]⟩
  else
    let selected := selectDiverse kept limits.maxInstances
    ⟨selected, [], refusals ++ [selectionEntry api.path selected.length kept.length]⟩

namespace Pool

/-- The substitutions in a window of `n`.  An empty window asks for none, so nothing is
resolved for it. -/
def window (pool : Pool) (n : Nat) (api : Signature) : Except Unsatisfiable (List Substitution) :=
  if n = 0 then .ok [] else pool.substitutions n api

/-- The instances of one function. -/
def instantiate (pool : Pool) (limits : InstanceLimits) (api : Signature) :
    Except WindowError Instantiation :=
  if api.isGeneric then
    (windowSize limits.maxProductScan).map fun size =>
      match pool.window size api with
      | .error u => ⟨[], [u.diagnostic], [skipEntry api.path u.message]⟩
      | .ok window => api.instantiateFrom limits window
  else .ok ⟨[api.instanceOf .empty], [], []⟩

/-- The instances of one function, if what is reported can be written. -/
def tryInstantiate (pool : Pool) (limits : InstanceLimits) (api : Signature) :
    Except RunError Instantiation :=
  match pool.instantiate limits api with
  | .error e => .error (.window e)
  | .ok part => if part.report.isWritable then .ok part else .error .digits

/-- The instances of each function, in order. -/
def instantiateEach (pool : Pool) (limits : InstanceLimits) (apis : List Signature) :
    Except RunError (List Instantiation) :=
  apis.mapM (pool.tryInstantiate limits)

end Pool

/-- Several instantiations as one. -/
def Instantiation.concat (parts : List Instantiation) : Instantiation :=
  ⟨parts.flatMap instances, parts.flatMap report, parts.flatMap log⟩

end FuzzSynth

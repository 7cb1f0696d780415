/-
The API surface of a library.

A surface holds the signatures of all facts that declare one, in the order of the
facts, and a diagnostic for each fact that does not.
-/
import FuzzSynth.Log
import FuzzSynth.Signature.OfFact

namespace FuzzSynth

/-- The functions of one library. -/
structure Surface where
  crate : String
  /-- The signatures, in order of declaration. -/
  apis : List Signature
  /-- One diagnostic for each fact that was left out. -/
  rejected : Report
  deriving Repr, Inhabited

namespace Surface

/-- Reads one fact into a surface. -/
def add (surface : Surface) (fact : ApiFact) : Surface :=
  match fact.signature with
  | .ok api => { surface with apis := surface.apis ++ [api] }
  | .error e => { surface with rejected := surface.rejected ++ [fact.diagnostic e] }

/-- The surface that facts declare. -/
def ofFacts (crate : String) (facts : List ApiFact) : Surface :=
  facts.foldl add ⟨crate, [], []⟩

/-- The surface of a document. -/
def ofDocument (document : Document) : Surface :=
  ofFacts document.crate document.apis

/-- The record of the facts that were left out. -/
def log (surface : Surface) : Log :=
  surface.rejected.map fun d =>
    ⟨.debug, "Skipping malformed signature " ++ d.subject ++ ": " ++ d.message⟩

/-- The generic functions. -/
def genericApis (surface : Surface) : List Signature :=
  surface.apis.filter Signature.isGeneric

/-- The first function with a path. -/
def find? (surface : Surface) (path : String) : Option Signature :=
  surface.apis.find? fun api => api.path == path

/-- The concrete types that occur as inputs or outputs, each once, without the unit. -/
def concreteTypes (surface : Surface) : List Ty :=
  Sequence.distinct
    ((surface.apis.flatMap Signature.types).filter fun t => !t.isGeneric && !t.isUnit)

end Surface

end FuzzSynth

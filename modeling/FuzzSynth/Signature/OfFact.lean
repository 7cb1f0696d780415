/-
From facts to signatures.

`ApiFact.signature` reads the texts of a fact.  Lifetime parameters are dropped;
the type parameters must have different names, every type must be readable, and
every parameter must occur in some type, for otherwise no call could say what it
stands for.
-/
import FuzzSynth.Diagnostic
import FuzzSynth.Facts.Basic
import FuzzSynth.Signature.Basic
import FuzzSynth.Text.Quoted
import FuzzSynth.Ty.Parser

namespace FuzzSynth

/-- Why a fact is not a signature. -/
inductive SignatureError where
  /-- These parameter names are declared more than once. -/
  | duplicateParams (names : List String)
  /-- One of the types cannot be read. -/
  | badType (cause : Ty.ParseError)
  /-- These parameters occur in no type. -/
  | unusedParams (names : List String)
  deriving DecidableEq, Repr

/-- What is said about a fact that is not a signature. -/
def SignatureError.message : SignatureError → String
  | duplicateParams names => "Duplicate generic parameters " ++ Text.quotedList names
  | badType cause => "Unparsable type: " ++ cause.message
  | unusedParams names =>
      "Generic parameters " ++ Text.quotedList names ++
        " are not referenced by any input or the output"

namespace ApiFact

/-- The generic parameters that stand for types. -/
def typeParams (fact : ApiFact) : List GenericFact :=
  fact.generics.filter fun g => !Text.isLifetime g.name.toList

/-- The names of the parameters that stand for types. -/
def paramNames (fact : ApiFact) : List String :=
  fact.typeParams.map GenericFact.name

/-- The names that are declared more than once, in increasing order. -/
def duplicateParams (fact : ApiFact) : List String :=
  Text.sortedNames (fact.paramNames.filter fun n => 1 < fact.paramNames.count n)

/-- The parameters with their positions and their bounds. -/
def params (fact : ApiFact) : List GenericParam :=
  fact.typeParams.mapIdx fun i g => ⟨g.name, i, .of g.bounds, fact.path⟩

/-- The inputs with their types read. -/
def readInputs (fact : ApiFact) : Except Ty.ParseError (List (String × Ty)) :=
  fact.inputs.mapM fun input => do
    let t ← Ty.parse fact.paramNames input.type
    pure (input.name, t)

/-- The output type; no text, or an empty one, means the unit. -/
def readOutput (fact : ApiFact) : Except Ty.ParseError Ty :=
  match fact.output with
  | none => .ok .unit
  | some text => if text.isEmpty then .ok .unit else Ty.parse fact.paramNames text

/-- The signature that a fact declares. -/
def signature (fact : ApiFact) : Except SignatureError Signature :=
  if fact.duplicateParams ≠ [] then .error (.duplicateParams fact.duplicateParams)
  else
    match fact.readInputs, fact.readOutput with
    | .error e, _ => .error (.badType e)
    | .ok _, .error e => .error (.badType e)
    | .ok inputs, .ok output =>
        let declared : Signature := ⟨fact.path, fact.params, inputs, output⟩
        let unused := fact.paramNames.filter fun n => !declared.referencedParams.contains n
        if unused ≠ [] then .error (.unusedParams unused) else .ok declared

/-- The diagnostic for a fact that is not a signature. -/
def diagnostic (fact : ApiFact) (e : SignatureError) : Diagnostic :=
  ⟨.malformedSignature, fact.path, e.message, []⟩

end ApiFact

end FuzzSynth

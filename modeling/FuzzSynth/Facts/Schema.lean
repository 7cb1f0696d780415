/-
Facts as structured values.

The checks below turn structured values into facts.  Only `path`, `name` and `type`
have to be there; everything else has a default, and unknown members are ignored.
The name of the library is read from `crate`, or else from `crate_name`.
-/
import FuzzSynth.Facts.Basic
import FuzzSynth.Validation

namespace FuzzSynth

open Validation

/-- A list of texts. -/
def Validation.checkStrings : Json → Checked (List String) :=
  checkList checkString

/-- A declared parameter. -/
def GenericFact.check : Json → Checked GenericFact :=
  checkModel "GenericParamFact" fun members =>
    (both (required "name" checkString members) (optional "bounds" [] checkStrings members)).map
      fun (name, bounds) => ⟨name, bounds⟩

/-- A declared input. -/
def InputFact.check : Json → Checked InputFact :=
  checkModel "InputFact" fun members =>
    (both (required "name" checkString members) (required "type" checkString members)).map
      fun (name, type) => ⟨name, type⟩

/-- An output type, or none. -/
def ApiFact.checkOutput : Json → Checked (Option String)
  | .null => .ok none
  | value => (checkString value).map some

/-- A declared function. -/
def ApiFact.check : Json → Checked ApiFact :=
  checkModel "ApiFact" fun members =>
    (both (required "path" checkString members)
      (both (optional "generics" [] (checkList GenericFact.check) members)
        (both (optional "inputs" [] (checkList InputFact.check) members)
          (optional "output" none ApiFact.checkOutput members)))).map
      fun (path, generics, inputs, output) => ⟨path, generics, inputs, output⟩

/-- An offered type. -/
def CandidateFact.check : Json → Checked CandidateFact :=
  checkModel "CandidateFact" fun members =>
    (both (required "type" checkString members) (optional "bounds" [] checkStrings members)).map
      fun (type, bounds) => ⟨type, bounds⟩

/-- The name of the library. -/
def Document.checkCrate (members : List (String × Json)) : Checked String :=
  match Json.member? "crate" members with
  | some value => within (.key "crate") (checkString value)
  | none => optional "crate_name" "crate" checkString members

/-- The name that messages call a document by. -/
def Document.modelName : String := "FactsDocument"

/-- Everything about one library. -/
def Document.check : Json → Checked Document :=
  checkModel modelName fun members =>
    (both (Document.checkCrate members)
      (both (optional "apis" [] (checkList ApiFact.check) members)
        (optional "candidates" [] (checkList CandidateFact.check) members))).map
      fun (crate, apis, candidates) => ⟨crate, apis, candidates⟩

end FuzzSynth

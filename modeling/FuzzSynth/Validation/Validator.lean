/-
Validators.

Which settings make a configuration and which values make facts is decided by a validator.
It gives what the value stands for, or a complaint: what is wrong with each part, and a
text that tells the user about it.  `Validator.standard` is the one by the checks of this
library.
-/
import FuzzSynth.Config.Schema
import FuzzSynth.Facts.Schema

namespace FuzzSynth

/-- Why a validator refuses a value. -/
structure Complaint where
  issues : List Validation.Issue
  /-- What is said about them. -/
  text : String
  deriving DecidableEq, Repr, Inhabited

/-- What decides which values are accepted, and what they stand for. -/
structure Validator where
  /-- The configuration of some members. -/
  config : List (String × Json) → Except Complaint Config
  /-- The facts of a structured value. -/
  document : Json → Except Complaint Document

/-- The issues of a model, with how many there are in words. -/
def Complaint.ofIssues (model : String) (issues : List Validation.Issue) : Complaint :=
  ⟨issues, Validation.summary model issues⟩

/-- The validator that checks member by member. -/
def Validator.standard : Validator where
  config members := (Config.checkMembers members).mapError (.ofIssues Config.modelName)
  document value := (Document.check value).mapError (.ofIssues Document.modelName)

end FuzzSynth

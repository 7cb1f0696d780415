/-
Resolving parameters.

A parameter may stand for every candidate that satisfies its bounds, and there
must be at least one.  The substitutions of a signature are all combinations, the
candidate of the last parameter changing fastest.  Since there can be very many,
`firstChoices` makes only as many as are asked for.
-/
import FuzzSynth.Diagnostic
import FuzzSynth.Instance.Substitution

namespace FuzzSynth

/-- No candidate satisfies the bounds of this parameter. -/
structure Unsatisfiable where
  param : GenericParam
  deriving DecidableEq, Repr

namespace Unsatisfiable

/-- What is said about the parameter. -/
def message (u : Unsatisfiable) : String :=
  "No candidate type satisfies " ++ u.param.render

/-- The function concerned, or the parameter if no function is known. -/
def subject (u : Unsatisfiable) : String :=
  if u.param.owner.isEmpty then u.param.name else u.param.owner

/-- The diagnostic for the parameter. -/
def diagnostic (u : Unsatisfiable) : Diagnostic :=
  ⟨.unsatisfiableBounds, u.subject, u.message, []⟩

end Unsatisfiable

namespace Pool

/-- The candidates for a parameter; there is at least one. -/
def resolve (pool : Pool) (param : GenericParam) : Except Unsatisfiable (List Candidate) :=
  match pool.query param.bounds with
  | [] => .error ⟨param⟩
  | candidates => .ok candidates

/-- The candidates for each parameter, in order of position. -/
def candidateLists (pool : Pool) (api : Signature) : Except Unsatisfiable (List (List Candidate)) :=
  api.generics.mapM pool.resolve

end Pool

/-! ## Choices -/

/-- All ways to choose one element from each list, the last choice changing fastest. -/
def choices {α : Type} : List (List α) → List (List α)
  | [] => [[]]
  | options :: rest => options.flatMap fun a => (choices rest).map (a :: ·)

/-- The first elements of lists made in turn, at most `n` of them. -/
def takeFlat {α β : Type} (n : Nat) (make : α → List β) : List α → List β
  | [] => []
  | a :: rest =>
      let made := make a
      if n ≤ made.length then made.take n else made ++ takeFlat (n - made.length) make rest

/-- The first `n` ways to choose one element from each list. -/
def firstChoices {α : Type} (n : Nat) : List (List α) → List (List α)
  | [] => [[]].take n
  | options :: rest =>
      let tails := firstChoices n rest
      takeFlat n (fun a => tails.map (a :: ·)) options

namespace Pool

/-- The number of all substitutions. -/
def substitutionCount (pool : Pool) (api : Signature) : Except Unsatisfiable Nat :=
  (pool.candidateLists api).map fun lists => (lists.map List.length).foldr (· * ·) 1

/-- The first `n` substitutions of a signature. -/
def substitutions (pool : Pool) (n : Nat) (api : Signature) :
    Except Unsatisfiable (List Substitution) :=
  (pool.candidateLists api).map fun lists =>
    (firstChoices n lists).map (Substitution.ofLists api.generics)

end Pool

end FuzzSynth

/-
The candidate pool.

The pool holds the concrete types that may be put in for type parameters, each
with the bounds it satisfies, in the order in which the types first came in.
Registering a type again replaces its bounds and keeps its place.  A query gives
the candidates that satisfy all the bounds asked for, in pool order.
-/
import FuzzSynth.Bound.Supertrait
import FuzzSynth.Facts.Basic
import FuzzSynth.Log
import FuzzSynth.Text.Quoted
import FuzzSynth.Ty.Parser
import FuzzSynth.Ty.Printer

namespace FuzzSynth

/-- A concrete type with the bounds it satisfies. -/
structure Candidate where
  type : Ty
  bounds : BoundSet
  deriving DecidableEq, Repr, Inhabited

namespace Candidate

/-- A type that satisfies the given bounds and everything they imply. -/
def offering (type : Ty) (bounds : BoundSet) : Candidate :=
  ⟨type, bounds.expand⟩

/-- The notation of the type. -/
def key (c : Candidate) : String :=
  c.type.render

/-- Whether the candidate satisfies all the bounds. -/
def satisfies (c : Candidate) (required : BoundSet) : Bool :=
  required.isSatisfiedBy c.bounds

end Candidate

/-- Why a type cannot be a candidate. -/
inductive CandidateError where
  /-- The text is not a type. -/
  | badType (cause : Ty.ParseError)
  /-- The type has parameters. -/
  | notConcrete (type : Ty)
  deriving DecidableEq, Repr

/-- What is said about a type that cannot be a candidate. -/
def CandidateError.message : CandidateError → String
  | badType cause => cause.message
  | notConcrete type => "Candidate type '" ++ type.render ++ "' must be concrete"

/-- Replaces the candidate of the same type, or adds one at the end. -/
def placeCandidate (c : Candidate) : List Candidate → List Candidate
  | [] => [c]
  | d :: rest => if d.type = c.type then c :: rest else d :: placeCandidate c rest

theorem map_type_placeCandidate (c : Candidate) (entries : List Candidate) :
    (placeCandidate c entries).map Candidate.type =
      if c.type ∈ entries.map Candidate.type then entries.map Candidate.type
      else entries.map Candidate.type ++ [c.type] := by
  induction entries with
  | nil => simp [placeCandidate]
  | cons d rest ih =>
      simp only [placeCandidate]
      split
      · next h => simp [h]
      · next h =>
          have h' : ¬ c.type = d.type := fun e => h e.symm
          simp only [List.map_cons, ih, List.mem_cons, h', false_or]
          split <;> simp

/-- The types that parameters may stand for. -/
structure Pool where
  /-- The candidates, in order of first registration. -/
  entries : List Candidate
  /-- Each type is there once. -/
  nodup : (entries.map Candidate.type).Nodup

namespace Pool

/-- A pool without candidates. -/
def empty : Pool := ⟨[], by simp⟩

instance : Inhabited Pool := ⟨empty⟩

/-- Puts a candidate in its place. -/
def place (pool : Pool) (c : Candidate) : Pool where
  entries := placeCandidate c pool.entries
  nodup := by
    rw [map_type_placeCandidate]
    split
    · exact pool.nodup
    · next h => exact List.nodup_append.mpr ⟨pool.nodup, by simp, by simpa using fun a ha e => h (by simp_all)⟩

/-- Offers a concrete type that satisfies the given bounds. -/
def register (pool : Pool) (type : Ty) (bounds : BoundSet) : Except CandidateError Pool :=
  if type.isGeneric then .error (.notConcrete type) else .ok (pool.place (.offering type bounds))

/-- Offers a type given as text. -/
def registerText (pool : Pool) (text : String) (bounds : BoundSet) : Except CandidateError Pool :=
  match Ty.parse [] text with
  | .error e => .error (.badType e)
  | .ok type => pool.register type bounds

/-- The candidates that satisfy all the bounds, in pool order. -/
def query (pool : Pool) (required : BoundSet) : List Candidate :=
  pool.entries.filter fun c => c.satisfies required

/-- The candidate of a type. -/
def get? (pool : Pool) (type : Ty) : Option Candidate :=
  pool.entries.find? fun c => c.type == type

/-- The number of candidates. -/
def size (pool : Pool) : Nat :=
  pool.entries.length

/-! ## Built-in candidates -/

/-- The marker bounds that every built-in type satisfies. -/
def markers : List String :=
  ["Sized", "Send", "Sync", "Unpin", "'static"]

/-- The bounds of the built-in integers, of `bool` and of `char`. -/
def integerTraits : List String :=
  ["Copy", "Ord", "Hash", "Debug", "Display", "Default", "FromStr"] ++ markers

/-- The bounds of `String`. -/
def stringTraits : List String :=
  ["Clone", "Ord", "Hash", "Debug", "Display", "Default", "FromStr", "AsRef<str>"] ++ markers

/-- The bounds of `f64`. -/
def floatTraits : List String :=
  ["Copy", "PartialOrd", "Debug", "Display", "Default", "FromStr"] ++ markers

/-- The built-in types; their order decides which candidate comes first. -/
def builtinTypes : List (String × List String) :=
  [("i32", integerTraits), ("String", stringTraits), ("u8", integerTraits), ("bool", integerTraits),
   ("usize", integerTraits), ("i64", integerTraits), ("u64", integerTraits), ("f64", floatTraits),
   ("char", integerTraits)]

/-- The pool of the built-in types. -/
def builtin : Pool :=
  builtinTypes.foldl (fun pool entry => pool.place (.offering (.named entry.1 []) (.of entry.2))) empty

/-! ## Candidate facts -/

/-- A pool widened by facts, with the facts that had to be left out. -/
structure Widened where
  pool : Pool
  skipped : List (CandidateFact × CandidateError)

instance : Inhabited Widened := ⟨⟨empty, []⟩⟩

/-- Offers the type of one fact. -/
def Widened.add (w : Widened) (fact : CandidateFact) : Widened :=
  match w.pool.registerText fact.type (.of fact.bounds) with
  | .ok pool => { w with pool }
  | .error e => { w with skipped := w.skipped ++ [(fact, e)] }

/-- The record of the facts that had to be left out. -/
def Widened.log (w : Widened) : Log :=
  w.skipped.map fun (fact, e) =>
    ⟨.warning, "Skipping candidate " ++ Text.quoted fact.type ++ ": " ++ e.message⟩

/-- The pool of the facts, after the built-in types unless those are left out. -/
def ofFacts (facts : List CandidateFact) (builtins : Bool) : Widened :=
  facts.foldl Widened.add ⟨if builtins then builtin else empty, []⟩

end Pool

end FuzzSynth

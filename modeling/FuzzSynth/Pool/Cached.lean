/-
A pool that remembers its answers.

A query that was asked before is answered from memory.  The memory is emptied whenever the
candidates change; offering a type again with the bounds it already has changes nothing
and empties nothing.
-/
import FuzzSynth.Pool

namespace FuzzSynth

/-- A type as it is offered: as a tree, or as text that is still to be read. -/
inductive OfferedType where
  | tree (type : Ty)
  | text (written : String)
  deriving Repr

namespace OfferedType

/-- A type that is free of parameters. -/
def concrete (type : Ty) : Except CandidateError Ty :=
  if type.isGeneric then .error (.notConcrete type) else .ok type

/-- The type that is offered, where it can be a candidate. -/
def read : OfferedType → Except CandidateError Ty
  | tree type => concrete type
  | text written =>
      match Ty.parse [] written with
      | .error e => .error (.badType e)
      | .ok type => concrete type

end OfferedType

/-- Bounds as they are offered: as a set, or as they are written. -/
inductive OfferedBounds where
  | set (names : BoundSet)
  | written (names : List String)
  deriving Repr

/-- The set of the offered bounds. -/
def OfferedBounds.normalised : OfferedBounds → BoundSet
  | set names => names
  | written names => .of names

/-- A pool with the answers it has given since its candidates last changed. -/
structure CachedPool where
  pool : Pool
  answers : List (BoundSet × List Candidate)

instance : Inhabited CachedPool := ⟨⟨.empty, []⟩⟩

namespace CachedPool

/-- The pool of the facts; it has answered nothing yet. -/
def ofFacts (facts : List CandidateFact) (builtins : Bool) : CachedPool :=
  ⟨(Pool.ofFacts facts builtins).pool, []⟩

/-- Stores a candidate, unless it is there already. -/
def store (cached : CachedPool) (c : Candidate) : CachedPool :=
  if cached.pool.get? c.type = some c then cached else ⟨cached.pool.place c, []⟩

/-- Offers a type; gives the stored candidate. -/
def register (cached : CachedPool) (type : OfferedType) (bounds : OfferedBounds) :
    Except CandidateError Candidate × CachedPool :=
  match type.read with
  | .error e => (.error e, cached)
  | .ok t => (.ok (.offering t bounds.normalised), cached.store (.offering t bounds.normalised))

/-- The candidates that satisfy all the bounds, from memory where they were asked for before. -/
def query (cached : CachedPool) (required : BoundSet) : List Candidate × CachedPool :=
  match cached.answers.lookup required with
  | some found => (found, cached)
  | none =>
      (cached.pool.query required,
        ⟨cached.pool, (required, cached.pool.query required) :: cached.answers⟩)

end CachedPool

/-- A call on a pool. -/
inductive PoolCall where
  | register (type : OfferedType) (bounds : OfferedBounds)
  | query (required : BoundSet)
  deriving Repr

namespace CachedPool

/-- The pool after a call. -/
def after (cached : CachedPool) : PoolCall → CachedPool
  | .register type bounds => (cached.register type bounds).2
  | .query required => (cached.query required).2

/-- The pool after a history of calls. -/
def run (cached : CachedPool) (calls : List PoolCall) : CachedPool :=
  calls.foldl after cached

end CachedPool

end FuzzSynth

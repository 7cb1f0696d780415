/-
Patterns of tokens.

A pattern says which tokens may come next, and which expressions are made of them.  A
choice takes the first of its patterns that fits, whatever follows it.  Some patterns are
tried only when a text is read for the second time: they fit what is wrong, and say why.
-/
import FuzzSynth.Literal.Expr

namespace FuzzSynth.Literal

/-- The rules of the grammar, each the name of a pattern. -/
inductive Rule where
  | whole
  | field
  | expressions
  | expression
  | plainExpression
  | yielding
  | starExpressions
  | starExpression
  | starNamedExpressions
  | starNamedExpression
  | assignment
  | namedExpression
  | disjunction
  | conjunction
  | inversion
  | comparison
  | comparisonPart
  | bitOr
  | bitXor
  | bitAnd
  | shift
  | sum
  | term
  | factor
  | power
  | awaiting
  | primary
  | atom
  | texts
  | group
  | lambda
  | parameters
  | slashPlain
  | slashDefault
  | afterStar
  | spreadParameter
  | plainParameter
  | defaultParameter
  | anyParameter
  | default
  | tuple
  | set
  | dict
  | entries
  | entryOrSpread
  | entry
  | clauses
  | clause
  | setComprehension
  | dictComprehension
  | generator
  | arguments
  | positional
  | namedArguments
  | starredArgument
  | namedOrStarred
  | namedOrSpread
  | targets
  | targetTuple
  | target
  | targetAtomOrAccess
  | targetAtom
  | targetPrimary
  | targetFollower
  | badExpression
  | badStatement
  | badNamed
  | badGroup
  | badParameters
  | badParametersStart
  | badAfterStar
  | badSpreadParameter
  | badDefault
  | badEntries
  | badEntry
  | badTarget
  | badComprehension
  | badDictComprehension
  | badArguments
  | badNamedArgument
  deriving DecidableEq, Repr, Inhabited

/-- A pattern of tokens. -/
inductive Pattern where
  /-- Nothing. -/
  | done
  /-- A mark or a keyword. -/
  | mark (s : String)
  /-- A token of a kind, which makes no expression. -/
  | kind (k : Kind)
  | name
  /-- A name that begins a word that may begin a statement. -/
  | softKeyword
  | number
  /-- One or more texts side by side. -/
  | texts
  | rule (r : Rule)
  | andThen (first next : Pattern)
  | orElse (first other : Pattern)
  /-- The pattern as often as it fits. -/
  | many (p : Pattern)
  /-- The pattern fits here, but is not taken. -/
  | ahead (p : Pattern)
  /-- The pattern does not fit here. -/
  | absent (p : Pattern)
  /-- Where the pattern does not fit, no other choice of its rule does. -/
  | settled (p : Pattern)
  /-- The pattern is tried only in a second reading. -/
  | second (p : Pattern)
  /-- In the pattern nothing is tried that belongs to a second reading. -/
  | plainly (p : Pattern)
  /-- What the expressions of a pattern make, or what is wrong with them; if they make
  nothing, no other choice of its rule fits.  The number says how many brackets are open
  after the pattern. -/
  | make (p : Pattern) (f : Nat → List Expr → Except Fault (Option Expr))
  deriving Inhabited

namespace Pattern

instance : Coe String Pattern := ⟨mark⟩

instance : Coe Rule Pattern := ⟨rule⟩

/-- Patterns that follow each other. -/
def seq : List Pattern → Pattern
  | [] => done
  | [p] => p
  | p :: rest => andThen p (seq rest)

/-- The first pattern that fits. -/
def choice : List Pattern → Pattern
  | [] => absent done
  | [p] => p
  | p :: rest => orElse p (choice rest)

/-- A pattern or nothing. -/
def opt (p : Pattern) : Pattern := orElse p done

/-- A pattern once or more often. -/
def oneOrMore (p : Pattern) : Pattern := andThen p (many p)

/-- A pattern once or more often, with commas between. -/
def listed (p : Pattern) : Pattern := andThen p (many (andThen (mark ",") p))

/-- A pattern that makes an expression. -/
def node (p : Pattern) (f : List Expr → Expr) : Pattern :=
  make p fun _ parts => .ok (some (f parts))

/-- A pattern that makes an expression of which no part is kept. -/
def formed (p : Pattern) (kind : Other) : Pattern := node p fun _ => .other kind

/-- A pattern that is wrong. -/
def wrong (p : Pattern) (fault : Fault) : Pattern := make p fun _ _ => .error fault

/-- A pattern that is wrong for some expressions; else no other choice of its rule fits. -/
def wrongIf (p : Pattern) (f : Nat → List Expr → Option Fault) : Pattern :=
  make p fun depth parts =>
    match f depth parts with
    | some fault => .error fault
    | none => .ok none

end Pattern

end FuzzSynth.Literal

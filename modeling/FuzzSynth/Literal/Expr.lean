/-
Expressions.

Of an expression is kept what tells whether it is a literal, and what a message calls it
(`Expr.form`).  Parts that stand in no literal are not kept.
-/
import FuzzSynth.Literal.Token

namespace FuzzSynth.Literal

/-- Expressions that are no literals, and parts of them. -/
inductive Other where
  | access
  | operation
  | comparison
  | conditional
  | lambda
  | assignment
  | yielding
  | awaiting
  | generator
  | setComprehension
  | dictComprehension
  /-- A `for` or `in` part, which is no expression. -/
  | clause
  deriving DecidableEq, Repr, Inhabited

/-- A constant that is a word or a mark. -/
inductive Constant where
  | isTrue
  | isFalse
  | none
  | ellipsis
  deriving DecidableEq, Repr, Inhabited

/-- An expression. -/
inductive Expr where
  | name (s : String)
  | constant (c : Constant)
  | whole (n : Nat)
  | fraction
  | imaginary
  /-- A text or bytes. -/
  | text
  /-- A text with fields. -/
  | fields
  | tuple (items : List Expr)
  | set (items : List Expr)
  /-- A dictionary of entries and spread values. -/
  | dict (entries : List Expr)
  | entry (key value : Expr)
  /-- A value that gives all its entries. -/
  | spread (value : Expr)
  /-- A value that gives all its items. -/
  | starred (value : Expr)
  /-- An argument with a name. -/
  | argument (value : Expr)
  | signed (value : Expr)
  /-- A sum or a difference. -/
  | sum (left right : Expr)
  | call (function : Expr) (arguments : List Expr)
  /-- A comparison that starts with `in`. -/
  | member (left : Expr)
  | other (kind : Other)
  deriving Inhabited

/-- What a message calls an expression. -/
def Other.form : Other → String
  | access => "attribute"
  | operation => "expression"
  | comparison => "comparison"
  | conditional => "conditional expression"
  | lambda => "lambda"
  | assignment => "named expression"
  | yielding => "yield expression"
  | awaiting => "await expression"
  | generator => "generator expression"
  | setComprehension => "set comprehension"
  | dictComprehension => "dict comprehension"
  | clause => "comprehension"

/-- How a constant is written. -/
def Constant.text : Constant → String
  | isTrue => "True"
  | isFalse => "False"
  | none => "None"
  | ellipsis => "ellipsis"

namespace Expr

/-- What a message calls an expression. -/
def form : Expr → String
  | name _ => "name"
  | constant c => c.text
  | whole _ => "literal"
  | fraction => "literal"
  | imaginary => "literal"
  | text => "literal"
  | fields => "f-string expression"
  | tuple _ => "tuple"
  | set _ => "set display"
  | dict _ => "dict literal"
  | entry _ _ => "dict literal"
  | spread _ => "dict literal"
  | starred _ => "starred"
  | argument _ => "keyword"
  | signed _ => "expression"
  | sum _ _ => "expression"
  | call _ _ => "function call"
  | member _ => "comparison"
  | other kind => kind.form

/-- Whether an argument of a call has neither a name nor spreads entries. -/
def isPositional : Expr → Bool
  | argument _ => false
  | spread _ => false
  | other .clause => false
  | _ => true

/-- Whether this is a spread value. -/
def isSpread : Expr → Bool
  | spread _ => true
  | _ => false

/-- Whether this is a name that once began a statement. -/
def isOldStatement : Expr → Bool
  | name s => s == "print" || s == "exec"
  | _ => false

mutual

/-- The part of a target of a `for` that nothing can be assigned to. -/
def badTarget? : Expr → Option Expr
  | name _ => none
  | other .access => none
  | other .comparison => none
  | tuple items => badTargets? items
  | starred value => value.badTarget?
  | member left => left.badTarget?
  | e => some e

/-- The same for several targets. -/
def badTargets? : List Expr → Option Expr
  | [] => none
  | e :: rest => e.badTarget?.or (badTargets? rest)

end

end Expr

end FuzzSynth.Literal

/-
Literals.

A literal is an expression that says what its value is: a constant, a number with at most
one sign, a text or bytes, a sum of a real and an imaginary number, or a tuple, a set or a
dictionary of literals.  An item of a set and a key of a dictionary has to be a value that
cannot change.
-/
import FuzzSynth.Literal.Reading

namespace FuzzSynth.Literal

open FuzzSynth.Text

/-- The value of a literal, as far as it tells where it may stand. -/
inductive Value where
  | whole (n : Nat)
  | fraction
  | imaginary
  /-- A constant, a text or bytes. -/
  | plain
  | tuple (items : List Value)
  | set
  | dict
  deriving Inhabited

mutual

/-- The kind of a value that can change, or of the first item of a tuple that can. -/
def Value.changing? : Value → Option String
  | set => some "set"
  | dict => some "dict"
  | tuple items => Value.anyChanging? items
  | _ => none

/-- The kind of the first of several values that can change. -/
def Value.anyChanging? : List Value → Option String
  | [] => none
  | v :: rest => v.changing?.or (Value.anyChanging? rest)

end

/-- A value that cannot change. -/
def Value.fixed (v : Value) : Except Fault Value :=
  match v.changing? with
  | some kind => .error (.unhashable kind)
  | none => .ok v

/-- The number that an expression is. -/
def Expr.number? : Expr → Option Value
  | whole n => some (.whole n)
  | fraction => some .fraction
  | imaginary => some .imaginary
  | _ => none

/-- The number that an expression with at most one sign is. -/
def Expr.signedNumber? : Expr → Option Value
  | signed value => value.number?
  | e => e.number?

/-- The least whole number that is nearer to no number of 64 bits. -/
def realLimit : Nat := Nat.pow 2 1024 - Nat.pow 2 970

/-- The value of a sum of two expressions: a real number and an imaginary one. -/
def sumValue (left right : Expr) : Except Fault Value :=
  match left.signedNumber?, right.number? with
  | some (.whole n), some .imaginary => if realLimit ≤ n then .error .tooGreat else .ok .imaginary
  | some .fraction, some .imaginary => .ok .imaginary
  | _, _ => .error .notLiteral

mutual

/-- The value of a literal. -/
def Expr.value : Expr → Except Fault Value
  | constant _ => .ok .plain
  | text => .ok .plain
  | whole n => .ok (.whole n)
  | fraction => .ok .fraction
  | imaginary => .ok .imaginary
  | signed e => (e.number?.map Except.ok).getD (.error .notLiteral)
  | sum left right => sumValue left right
  | tuple items => (Expr.values items).map .tuple
  | set items => (Expr.fixedValues items).map fun _ => .set
  | dict entries => (Expr.entryValues entries).map fun _ => .dict
  | call (.name "set") [] => .ok .set
  | _ => .error .notLiteral

/-- The values of literals. -/
def Expr.values : List Expr → Except Fault (List Value)
  | [] => .ok []
  | e :: rest => do
      let v ← e.value
      let others ← Expr.values rest
      .ok (v :: others)

/-- The values of literals, none of which can change. -/
def Expr.fixedValues : List Expr → Except Fault Unit
  | [] => .ok ()
  | e :: rest => do
      let _ ← e.value >>= Value.fixed
      Expr.fixedValues rest

/-- The values of the entries of a dictionary, of which no key can change. -/
def Expr.entryValues : List Expr → Except Fault Unit
  | [] => .ok ()
  | .entry key value :: rest => do
      let k ← key.value
      let _ ← value.value
      let _ ← k.fixed
      Expr.entryValues rest
  | _ :: _ => .error .spreadEntry

end

/-- What keeps a text from being a literal. -/
inductive Failure where
  /-- The text is no expression. -/
  | expression (fault : Fault)
  /-- The text cannot be read at all, or it is an expression and no literal. -/
  | value (fault : Fault)
  deriving DecidableEq, Repr, Inhabited

/-- The value of the literal that a text is. -/
def valueOf (s : String) : Except Failure Value := do
  match unencodable? s with
  | some u => throw (.value (.unencodable u))
  | none => pure ()
  let cs := (toPoints s.toList).map Char.ofNat
  if cs.contains '\x00' then throw (.value .nul)
  let e ← (expressionOf cs).mapError .expression
  e.value.mapError .value

end FuzzSynth.Literal

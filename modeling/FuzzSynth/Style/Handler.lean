/-
Tags of handlers.

A tag whose name starts with `@` names a handler and what it is given: a name and values
in parentheses, a name alone, or one value.  The values have to be literals.
-/
import FuzzSynth.Literal.Value
import FuzzSynth.Text.Blank

namespace FuzzSynth.Style

open FuzzSynth.Text

/-- The expression of what a handler is given: the parentheses after its name, empty ones
after a name alone, or else all of it. -/
def givenExpression (given : List Char) : List Char :=
  let arguments := given.dropWhile fun c => isWordChar c || c == '.'
  if arguments.isEmpty then ['(', ')']
  else if arguments.head? == some '(' && arguments.getLast? == some ')' && !arguments.contains '\n'
  then arguments
  else given

/-- Why a handler cannot be given something. -/
structure HandlerFault where
  /-- What it is given, as it is written. -/
  parameters : String
  /-- The expression of it. -/
  expression : String
  failure : Literal.Failure
  deriving DecidableEq, Repr, Inhabited

/-- What is wrong with the parameters of a handler, if it has any. -/
def handlerFault? (parameters : List Char) : Option HandlerFault :=
  if parameters.isEmpty then none
  else
    let expression := String.ofList (givenExpression (trim parameters))
    match Literal.valueOf expression with
    | .ok _ => none
    | .error failure => some ⟨String.ofList parameters, expression, failure⟩

/-- What is said about the parameters of a handler. -/
def HandlerFault.message (f : HandlerFault) : String :=
  match f.failure with
  | .expression fault =>
      "error parsing " ++ quoted f.expression ++ " in " ++ quoted f.parameters ++ "; " ++
        fault.message
  | .value fault => "error parsing " ++ quoted f.parameters ++ "; " ++ fault.message

end FuzzSynth.Style

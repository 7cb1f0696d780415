/-
The grammar of expressions.

`Rule.pattern` gives each rule its pattern.  The rules that begin with `bad` fit what is
wrong in a common way.  Square brackets stand in no expression here, so there are no lists
and no subscripts.
-/
import FuzzSynth.Literal.Pattern

namespace FuzzSynth.Literal

open Pattern

namespace Rule

/-- A sum or difference of two expressions. -/
def sumOf : List Expr → Expr
  | [left, right] => .sum left right
  | _ => .other .operation

/-- A value with a sign. -/
def signedOf : List Expr → Expr
  | [value] => .signed value
  | _ => .other .operation

/-- A value with a star. -/
def starredOf : List Expr → Expr
  | [value] => .starred value
  | _ => .other .operation

/-- A value that is spread. -/
def spreadOf : List Expr → Expr
  | [value] => .spread value
  | _ => .other .operation

/-- An entry of a dictionary. -/
def entryOf : List Expr → Expr
  | [key, value] => .entry key value
  | _ => .other .operation

/-- An argument after its name. -/
def argumentOf : List Expr → Expr
  | [_, value] => .argument value
  | _ => .other .operation

/-- A call of the first expression. -/
def callOf : List Expr → Expr
  | function :: given => .call function given
  | [] => .other .operation

/-- A comparison, of which the first part after the left side tells whether it is `in`. -/
def comparisonOf : List Expr → Expr
  | left :: .other .clause :: _ => .member left
  | _ => .other .comparison

/-- The fault that is named for the form of the first expression. -/
def formFault (fault : String → Fault) (_ : Nat) (parts : List Expr) : Option Fault :=
  parts.head?.map fun e => fault e.form

/-- What an expression lacks that follows another one inside brackets. -/
def commaFault (depth : Nat) (parts : List Expr) : Option Fault :=
  if parts.head?.any Expr.isOldStatement || depth = 0 then none else some .missingComma

/-- What is said about a name that once began a statement. -/
def statementFault (_ : Nat) : List Expr → Option Fault
  | .name s :: _ => if (Expr.name s).isOldStatement then some (.oldStatement s) else none
  | _ => none

/-- What is said about a target that nothing can be assigned to. -/
def targetFault (_ : Nat) (parts : List Expr) : Option Fault :=
  (parts.head?.bind Expr.badTarget?).map fun e => .assigned e.form

/-- What is said about a generator without brackets among other arguments. -/
def generatorFault (_ : Nat) (parts : List Expr) : Option Fault :=
  if parts.countP Expr.isPositional ≤ 1 then none else some .openGenerator

/-- What is said about arguments in front of a positional one. -/
def orderFault (_ : Nat) (parts : List Expr) : Option Fault :=
  some (if parts.any Expr.isSpread then .positionalAfterSpread else .positionalAfterKeyword)

/-- The operators that have a level of their own, from the left, and their operands. -/
def leftBinary (r : Rule) (marks : List String) (operand : Rule) : Pattern :=
  choice (marks.map (fun (s : String) => formed (seq [rule r, mark s, rule operand]) .operation) ++
    [rule operand])

/-- An opening brace. -/
def opening : Pattern := mark "\x7b"

/-- A closing brace. -/
def closing : Pattern := mark "\x7d"

/-- What a rule stands for. -/
def pattern : Rule → Pattern
  | whole => seq [expressions, many (kind .newline), kind .finish]
  | field => starExpressions
  | expressions => choice [
      node (seq [expression, oneOrMore (seq [",", expression]), opt ","]) .tuple,
      node (seq [expression, ","]) .tuple,
      expression]
  | expression => choice [
      second badExpression,
      second badStatement,
      formed (seq [disjunction, "if", disjunction, "else", expression]) .conditional,
      disjunction,
      lambda]
  | plainExpression => choice [
      formed (seq [disjunction, "if", disjunction, "else", expression]) .conditional,
      disjunction,
      lambda]
  | yielding => choice [
      formed (seq ["yield", "from", expression]) .yielding,
      formed (seq ["yield", opt starExpressions]) .yielding]
  | starExpressions => choice [
      node (seq [starExpression, oneOrMore (seq [",", starExpression]), opt ","]) .tuple,
      node (seq [starExpression, ","]) .tuple,
      starExpression]
  | starExpression => choice [node (seq ["*", bitOr]) starredOf, expression]
  | starNamedExpressions => seq [listed starNamedExpression, opt ","]
  | starNamedExpression => choice [node (seq ["*", bitOr]) starredOf, namedExpression]
  | assignment => formed (seq [name, ":=", expression]) .assignment
  | namedExpression => choice [
      assignment,
      second badNamed,
      seq [expression, absent ":="]]
  | disjunction => choice [
      formed (seq [conjunction, oneOrMore (seq ["or", conjunction])]) .operation,
      conjunction]
  | conjunction => choice [
      formed (seq [inversion, oneOrMore (seq ["and", inversion])]) .operation,
      inversion]
  | inversion => choice [formed (seq ["not", inversion]) .operation, comparison]
  | comparison => choice [
      node (seq [bitOr, oneOrMore comparisonPart]) comparisonOf,
      bitOr]
  | comparisonPart => choice [
      seq ["==", bitOr],
      seq ["!=", bitOr],
      seq ["<=", bitOr],
      seq ["<", bitOr],
      seq [">=", bitOr],
      seq [">", bitOr],
      seq ["not", "in", bitOr],
      formed (seq ["in", bitOr]) .clause,
      seq ["is", "not", bitOr],
      seq ["is", bitOr]]
  | bitOr => leftBinary bitOr ["|"] bitXor
  | bitXor => leftBinary bitXor ["^"] bitAnd
  | bitAnd => leftBinary bitAnd ["&"] shift
  | shift => leftBinary shift ["<<", ">>"] sum
  | sum => choice [
      node (seq [sum, "+", term]) sumOf,
      node (seq [sum, "-", term]) sumOf,
      term]
  | term => leftBinary term ["*", "/", "//", "%", "@"] factor
  | factor => choice [
      node (seq ["+", factor]) signedOf,
      node (seq ["-", factor]) signedOf,
      formed (seq ["~", factor]) .operation,
      power]
  | power => choice [formed (seq [awaiting, "**", factor]) .operation, awaiting]
  | awaiting => choice [formed (seq ["await", primary]) .awaiting, primary]
  | primary => choice [
      formed (seq [primary, ".", name]) .access,
      node (seq [primary, generator]) callOf,
      node (seq [primary, "(", opt arguments, ")"]) callOf,
      atom]
  | atom => choice [
      name,
      node "True" fun _ => .constant .isTrue,
      node "False" fun _ => .constant .isFalse,
      node "None" fun _ => .constant .none,
      seq [ahead (kind .text), texts],
      number,
      seq [ahead "(", choice [tuple, group, generator]],
      seq [ahead opening, choice [dict, set, dictComprehension, setComprehension]],
      node "..." fun _ => .constant .ellipsis]
  | texts => Pattern.texts
  | group => choice [
      seq ["(", choice [yielding, namedExpression], ")"],
      second badGroup]
  | lambda =>
      formed
        (seq ["lambda", opt (choice [second badParameters, parameters]), ":", expression]) .lambda
  | parameters => choice [
      seq [slashPlain, many plainParameter, many defaultParameter, opt afterStar],
      seq [slashDefault, many defaultParameter, opt afterStar],
      seq [oneOrMore plainParameter, many defaultParameter, opt afterStar],
      seq [oneOrMore defaultParameter, opt afterStar],
      afterStar]
  | slashPlain => choice [
      seq [oneOrMore plainParameter, "/", ","],
      seq [oneOrMore plainParameter, "/", ahead ":"]]
  | slashDefault => choice [
      seq [many plainParameter, oneOrMore defaultParameter, "/", ","],
      seq [many plainParameter, oneOrMore defaultParameter, "/", ahead ":"]]
  | afterStar => choice [
      second badAfterStar,
      seq ["*", plainParameter, many anyParameter, opt spreadParameter],
      seq ["*", ",", oneOrMore anyParameter, opt spreadParameter],
      spreadParameter]
  | spreadParameter => choice [second badSpreadParameter, seq ["**", plainParameter]]
  | plainParameter => choice [seq [name, ","], seq [name, ahead ":"]]
  | defaultParameter => choice [seq [name, default, ","], seq [name, default, ahead ":"]]
  | anyParameter => choice [seq [name, opt default, ","], seq [name, opt default, ahead ":"]]
  | default => choice [seq ["=", expression], second badDefault]
  | tuple =>
      node (seq ["(", opt (seq [starNamedExpression, ",", opt starNamedExpressions]), ")"]) .tuple
  | set => node (seq [opening, starNamedExpressions, closing]) .set
  | dict => choice [
      node (seq [opening, opt entries, closing]) .dict,
      seq [opening, badEntries, closing]]
  | entries => seq [listed entryOrSpread, opt ","]
  | entryOrSpread => choice [node (seq ["**", bitOr]) spreadOf, entry]
  | entry => node (seq [expression, ":", expression]) entryOf
  | clauses => oneOrMore clause
  | clause => choice [
      formed (seq ["async", "for", targets, "in",
        settled (seq [disjunction, many (seq ["if", disjunction])])]) .clause,
      formed (seq ["for", targets, "in",
        settled (seq [disjunction, many (seq ["if", disjunction])])]) .clause,
      second badTarget]
  | setComprehension => choice [
      formed (seq [opening, namedExpression, clauses, closing]) .setComprehension,
      second badComprehension]
  | dictComprehension => choice [
      formed (seq [opening, entry, clauses, closing]) .dictComprehension,
      second badDictComprehension]
  | generator => choice [
      formed
        (seq ["(", choice [assignment, seq [expression, absent ":="]], clauses, ")"]) .generator,
      second badComprehension]
  | arguments => choice [seq [positional, opt ",", ahead ")"], second badArguments]
  | positional => choice [
      seq [listed (choice [starredArgument,
          seq [choice [assignment, seq [expression, absent ":="]], absent "="]]),
        opt (seq [",", namedArguments])],
      namedArguments]
  | namedArguments => choice [
      seq [listed namedOrStarred, ",", listed namedOrSpread],
      listed namedOrStarred,
      listed namedOrSpread]
  | starredArgument => node (seq ["*", expression]) starredOf
  | namedOrStarred => choice [
      second badNamedArgument,
      node (seq [name, "=", expression]) argumentOf,
      starredArgument]
  | namedOrSpread => choice [
      second badNamedArgument,
      node (seq [name, "=", expression]) argumentOf,
      node (seq ["**", expression]) spreadOf]
  | targets => choice [
      seq [target, absent ","],
      seq [target, many (seq [",", target]), opt ","]]
  | targetTuple => choice [
      seq [target, oneOrMore (seq [",", target]), opt ","],
      seq [target, ","]]
  | target => choice [seq ["*", absent "*", target], targetAtomOrAccess]
  | targetAtomOrAccess => choice [
      seq [targetPrimary, ".", name, absent targetFollower],
      targetAtom]
  | targetAtom => choice [
      name,
      seq ["(", targetAtomOrAccess, ")"],
      seq ["(", opt targetTuple, ")"]]
  | targetPrimary => choice [
      seq [targetPrimary, ".", name, ahead targetFollower],
      seq [targetPrimary, generator, ahead targetFollower],
      seq [targetPrimary, "(", opt arguments, ")", ahead targetFollower],
      seq [atom, ahead targetFollower]]
  | targetFollower => choice ["(", "."]
  | badExpression => choice [
      wrongIf (seq [absent (choice [seq [name, kind .text], softKeyword]), disjunction,
        plainly plainExpression]) commaFault,
      wrong (seq [disjunction, "if", disjunction, absent (choice ["else", ":"])]) .missingElse]
  | badStatement => wrongIf (seq [name, absent "(", starExpressions]) statementFault
  | badNamed => choice [
      wrongIf (seq [expression, ":=", expression]) (formFault .namedForm),
      wrong (seq [name, "=", bitOr, absent (choice ["=", ":="])]) .equalsSign,
      wrongIf (seq [absent (choice [tuple, generator, "True", "None", "False"]), bitOr, "=", bitOr,
        absent (choice ["=", ":="])]) (formFault .assignedHere)]
  | badGroup => choice [
      wrong (seq ["(", starredArgument, ")"]) .starredGroup,
      wrong (seq ["(", "**", expression, ")"]) .doubleStarredGroup]
  | badParameters => choice [
      wrong (seq [many plainParameter, badParametersStart, plainParameter]) .defaultBefore,
      wrong (seq [many plainParameter, "(", listed name, opt ",", ")"]) .bracketedParameters,
      wrong (seq ["/", ","]) .noParameterBeforeSlash,
      wrong (seq [choice [slashPlain, slashDefault], many anyParameter, "/"]) .slashTwice,
      wrong (seq [opt (choice [slashPlain, slashDefault]), many anyParameter, "*",
        choice [",", plainParameter], many anyParameter, "/"]) .slashAfterStar,
      wrong (seq [oneOrMore anyParameter, "/", "*"]) .slashThenStar]
  | badParametersStart => choice [slashDefault, oneOrMore defaultParameter]
  | badAfterStar => choice [
      wrong (seq ["*", choice [":", seq [",", choice [":", "**"]]]]) .nothingAfterStar,
      wrong (seq ["*", name, "="]) .starWithDefault,
      wrong (seq ["*", choice [plainParameter, ","], many anyParameter, "*",
        choice [plainParameter, ","]]) .starTwice]
  | badSpreadParameter => choice [
      wrong (seq ["**", name, "="]) .spreadWithDefault,
      wrong (seq ["**", name, ",", name]) .afterSpread,
      wrong (seq ["**", name, ",", choice ["*", "**", "/"]]) .afterSpread]
  | badDefault => wrong (seq ["=", ahead (choice [")", ","])]) .noDefault
  | badEntries => choice [
      seq [listed entryOrSpread, ",", badEntry],
      wrong (seq [expression, ":", "*", bitOr]) .starredDictValue,
      wrong (seq [expression, ":", ahead (choice [closing, ","])]) .noDictValue]
  | badEntry => choice [
      wrong (seq [expression, absent ":"]) .noDictColon,
      wrong (seq [expression, ":", "*", bitOr]) .starredDictValue,
      wrong (seq [expression, ":", ahead (choice [closing, ","])]) .noDictValue]
  | badTarget => wrongIf (seq [opt "async", "for", starExpressions]) targetFault
  | badComprehension => choice [
      wrong (seq [choice ["(", opening], starredArgument, clauses]) .starredComprehension,
      wrong (seq [opening, starNamedExpression, ",", starNamedExpressions, clauses])
        .bareComprehension,
      wrong (seq [opening, starNamedExpression, ",", clauses]) .bareComprehension]
  | badDictComprehension =>
      wrong (seq [opening, "**", bitOr, clauses, closing]) .spreadComprehension
  | badArguments => choice [
      wrong (seq [positional, ",", "*"]) .starAfterSpread,
      wrong (seq [expression, clauses, ",",
        opt (choice [positional, seq [expression, clauses]])]) .openGenerator,
      wrong (seq [name, "=", expression, clauses]) .equalsSign,
      wrongIf (seq [positional, clauses]) generatorFault,
      wrong (seq [positional, ",", expression, clauses]) .openGenerator,
      wrongIf (seq [positional, ",", ahead positional]) orderFault]
  | badNamedArgument => choice [
      wrong (seq ["True", "="]) (.assigned "True"),
      wrong (seq ["False", "="]) (.assigned "False"),
      wrong (seq ["None", "="]) (.assigned "None"),
      wrong (seq [name, "=", expression, clauses]) .equalsSign,
      wrong (seq [absent (seq [name, "="]), expression, "="]) .assignedArgument]

/-- Whether what a rule finds at a place is kept for the same reading. -/
def isKept : Rule → Bool
  | expression | starExpression | disjunction | conjunction | inversion | factor | awaiting
  | texts | arguments | badNamed | target | targetAtomOrAccess => true
  | _ => false

/-- Whether a rule starts with itself. -/
def isLeftRecursive : Rule → Bool
  | bitOr | bitXor | bitAnd | shift | sum | term | primary | targetPrimary => true
  | _ => false

end Rule

end FuzzSynth.Literal

/-
Tokens of expressions.

A token is a name, a keyword, a number, a text between quotes or a mark, or the end of a
line, a change of indentation or the end of the whole text.  `Tokens` are those of a text,
as far as it could be divided: where it could not, they have an ending, which is met when
all tokens before it have been read.
-/
import FuzzSynth.Literal.Fault

namespace FuzzSynth.Literal

/-- What a token is. -/
inductive Kind where
  | name
  | keyword
  | number
  /-- A text between quotes, with what stands before the first quote. -/
  | text
  | mark
  | newline
  | indent
  | unindent
  /-- The end of the text. -/
  | finish
  deriving DecidableEq, Repr, Inhabited

/-- A token, and where it stands. -/
structure Token where
  kind : Kind
  chars : List Char
  /-- The line that it starts in; the first line is 1. -/
  line : Nat
  /-- How many brackets are open after it. -/
  depth : Nat
  /-- Whether the end of the text has to be met to tell where it ends. -/
  meetsEnd : Bool
  deriving DecidableEq, Repr, Inhabited

/-- A bracket that is open, and the line that it stands in. -/
structure OpenBracket where
  char : Char
  line : Nat
  deriving DecidableEq, Repr, Inhabited

/-- Where a text can be divided no further. -/
structure Ending where
  fault : Fault
  /-- Whether this fault comes before all that is wrong with the tokens before it. -/
  isUrgent : Bool
  /-- The innermost bracket that is open. -/
  opened : Option OpenBracket
  deriving DecidableEq, Repr, Inhabited

/-- The tokens of a text. -/
structure Tokens where
  tokens : List Token
  ending : Option Ending
  deriving DecidableEq, Repr, Inhabited

/-- Words that are no names. -/
def keywords : List String :=
  ["False", "None", "True", "and", "as", "assert", "async", "await", "break", "class", "continue",
   "def", "del", "elif", "else", "except", "finally", "for", "from", "global", "if", "import",
   "in", "is", "lambda", "nonlocal", "not", "or", "pass", "raise", "return", "try", "while",
   "with", "yield"]

/-- Words that may begin a statement, though they are names elsewhere. -/
def softKeywords : List String :=
  ["_", "case", "match"]

/-- Whether a name begins a word that may begin a statement. -/
def mayBeginStatement (name : List Char) : Bool :=
  softKeywords.any fun word => name.isPrefixOf word.toList

/-- Marks of three characters. -/
def longMarks : List String :=
  ["**=", "...", "//=", "<<=", ">>="]

/-- Marks of two characters. -/
def pairMarks : List String :=
  ["!=", "%=", "&=", "**", "*=", "+=", "-=", "->", "//", "/=", ":=", "<<", "<=", "<>", "==", ">=",
   ">>", "@=", "^=", "|="]

/-- Whether a token is a certain mark or keyword. -/
def Token.reads (t : Token) (s : String) : Bool :=
  (t.kind == .mark || t.kind == .keyword) && t.chars == s.toList

end FuzzSynth.Literal

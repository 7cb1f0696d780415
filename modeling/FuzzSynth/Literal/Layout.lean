/-
Lines, indentation and brackets.

`tokensOf` divides a text into tokens.  A line ends a statement, unless a bracket is open
or a backslash continues it; lines that are blank or hold a comment alone end nothing.  The
blanks at the start of a line are its indentation, counted once with tabs to every eighth
column and once with tabs as one blank: both counts have to rise and fall together.
-/
import FuzzSynth.Literal.Lexeme

namespace FuzzSynth.Literal

open FuzzSynth.Text

/-- The greatest number of brackets that may be open. -/
def depthLimit : Nat := 200

/-- The greatest number of indentations inside each other. -/
def indentLimit : Nat := 100

/-! ## Indentation -/

/-- The columns that a line starts at, with wide tabs and with narrow ones. -/
structure Columns where
  wide : Nat
  narrow : Nat
  deriving DecidableEq, Repr, Inhabited

/-- The blanks that a line starts with. -/
structure Margin where
  columns : Columns
  /-- How many characters they are. -/
  length : Nat
  /-- How many lines they go over. -/
  lines : Nat
  deriving DecidableEq, Repr, Inhabited

/-- The blanks that a line starts with, after some of them.  The column of a line that is
continued is the one where its first part was left, unless that is the first column. -/
def marginAfter (columns : Columns) (left length lines : Nat) : List Char → Except Fault Margin
  | ' ' :: rest =>
      marginAfter ⟨columns.wide + 1, columns.narrow + 1⟩ left (length + 1) lines rest
  | '\t' :: rest =>
      marginAfter ⟨(columns.wide / 8 + 1) * 8, columns.narrow + 1⟩ left (length + 1) lines rest
  | '\x0c' :: rest => marginAfter ⟨0, 0⟩ left (length + 1) lines rest
  | ['\\', '\n'] => .error .endsInLine
  | '\\' :: '\n' :: rest =>
      marginAfter columns (if left = 0 then columns.wide else left) (length + 2) (lines + 1) rest
  | '\\' :: _ => .error .afterBackslash
  | _ => .ok ⟨if left = 0 then columns else ⟨left, left⟩, length, lines⟩

/-- The indentations that are left after a line starts at columns: how many are closed,
and which remain, the innermost first. -/
def closeIndents (columns : Columns) : List Columns → Nat × List Columns
  | outer :: inner :: rest =>
      if columns.wide < outer.wide then
        let (closed, left) := closeIndents columns (inner :: rest)
        (closed + 1, left)
      else (0, outer :: inner :: rest)
  | indents => (0, indents)

/-- The change of indentation at a line that starts at columns. -/
def changeIndents (columns : Columns) (indents : List Columns) :
    Except Fault (List Kind × List Columns) :=
  let current := indents.headD ⟨0, 0⟩
  if columns.wide = current.wide then
    if columns.narrow = current.narrow then .ok ([], indents) else .error .mixedIndent
  else if current.wide < columns.wide then
    if indentLimit ≤ indents.length then .error .tooManyIndents
    else if columns.narrow ≤ current.narrow then .error .mixedIndent
    else .ok ([.indent], columns :: indents)
  else
    let (closed, left) := closeIndents columns indents
    let outer := left.headD ⟨0, 0⟩
    if columns.wide ≠ outer.wide then .error .unindent
    else if columns.narrow ≠ outer.narrow then .error .mixedIndent
    else .ok (List.replicate closed .unindent, left)

/-! ## Tokens -/

/-- What is known between two tokens. -/
structure Layout where
  line : Nat
  /-- The brackets that are open, the innermost first. -/
  opened : List OpenBracket
  /-- The indentations, the innermost first. -/
  indents : List Columns
  /-- Whether a line starts here. -/
  atStart : Bool
  /-- Whether the line is blank but for a comment. -/
  isBlank : Bool
  deriving DecidableEq, Repr, Inhabited

namespace Layout

/-- Where a text begins. -/
def start : Layout := ⟨1, [], [⟨0, 0⟩], true, false⟩

/-- A token at this place. -/
def token (s : Layout) (kind : Kind) (chars : List Char) : Token :=
  ⟨kind, chars, s.line, s.opened.length, false⟩

/-- Whether the end of a text tells where a token ends that it consists of: a closing quote
and a long mark have no need of it. -/
def meetsEnd (kind : Kind) (chars cs : List Char) : Bool :=
  chars.length == cs.length && kind != .text && !longMarks.contains (String.ofList chars)

/-- The end of what can be divided, by a fault that comes after all others. -/
def ending (s : Layout) (fault : Fault) : Ending :=
  match fault, s.opened.head? with
  | .endsInLine, some bracket => ⟨.neverClosed bracket.char, false, some bracket⟩
  | _, opened => ⟨fault, false, opened⟩

/-- The end of what can be divided, by a fault that comes before all others. -/
def urgentEnding (s : Layout) (fault : Fault) : Ending :=
  ⟨fault, true, s.opened.head?⟩

/-- What is known after a bracket is opened. -/
def openBracket (s : Layout) (c : Char) : Except Fault Layout :=
  if depthLimit ≤ s.opened.length then .error .tooDeep
  else .ok { s with opened := ⟨c, s.line⟩ :: s.opened }

/-- What is known after a bracket is closed. -/
def closeBracket (s : Layout) (c : Char) : Except Fault Layout :=
  match s.opened with
  | [] => .error (.unmatched c)
  | bracket :: outer =>
      if (bracket.char, c) ∈ [('(', ')'), ('[', ']'), ('{', '}')] then
        .ok { s with opened := outer }
      else
        let line := if bracket.line = s.line then none else some bracket.line
        .error (.mismatched c bracket.char line)

/-- What is known after a mark. -/
def afterMark (s : Layout) : List Char → Except Fault Layout
  | [c] =>
      if c == '(' || c == '[' || c == '{' then s.openBracket c
      else if c == ')' || c == ']' || c == '}' then s.closeBracket c
      else if isPrintable c then .ok s
      else .error (.badCharacter c)
  | _ => .ok s

/-- What is known after the blanks that a line starts with, how many they are, and the
changes of indentation there. -/
def enterLine (s : Layout) (cs : List Char) : Except Fault (List Token × Layout × Nat) := do
  let margin ← marginAfter ⟨0, 0⟩ 0 0 0 cs
  let s := { s with line := s.line + margin.lines, atStart := false, isBlank := false }
  match (cs.drop margin.length).head? with
  | some '#' => .ok ([], { s with isBlank := true }, margin.length)
  | some '\n' => .ok ([], { s with isBlank := true }, margin.length)
  | _ =>
      if s.opened.isEmpty then
        let (changes, indents) ← changeIndents margin.columns s.indents
        let s := { s with indents := indents }
        .ok (changes.map (s.token · []), s, margin.length)
      else .ok ([], s, margin.length)

/-- What stands first inside a line: a token, or something that is none, and how many
characters it has. -/
def advance (s : Layout) : List Char → Except Ending (List Token × Layout × Nat)
  | '\n' :: _ =>
      let next := { s with line := s.line + 1, atStart := true }
      .ok (if s.isBlank || !s.opened.isEmpty then [] else [s.token .newline []], next, 1)
  | ['\\', '\n'] => .error (s.ending .endsInLine)
  | '\\' :: '\n' :: _ => .ok ([], { s with line := s.line + 1 }, 2)
  | '\\' :: _ => .error (s.ending .afterBackslash)
  | cs => do
      if cs.head?.any fun c => c == ' ' || c == '\t' || c == '\x0c' then .ok ([], s, 1)
      else if cs.head? == some '#' then .ok ([], s, (cs.takeWhile (· != '\n')).length)
      else
        let found ← (lexeme s.line cs).mapError s.urgentEnding
        let chars := cs.take found.length
        let next ←
          if found.kind = .mark then (s.afterMark chars).mapError s.urgentEnding else .ok s
        .ok ([{ next.token found.kind chars with meetsEnd := meetsEnd found.kind chars cs }],
          { next with line := next.line + chars.count '\n' }, found.length)

/-- What stands first in a text: at the start of a line its blanks, if there are any. -/
def step (s : Layout) (cs : List Char) : Except Ending (List Token × Layout × Nat) :=
  if s.atStart then do
    let (changes, s, length) ← (s.enterLine cs).mapError s.ending
    if length = 0 then
      let (found, s, length) ← s.advance cs
      .ok (changes ++ found, s, length)
    else .ok (changes, s, length)
  else s.advance cs

/-- The tokens of a text after its first `skipped` characters, which belong to a token
already found. -/
def tokensAfter (s : Layout) : (skipped : Nat) → List Char → Tokens
  | _, [] =>
      match s.opened.head? with
      | some bracket => ⟨[], some ⟨.neverClosed bracket.char, false, some bracket⟩⟩
      | none => ⟨[s.token .finish []], none⟩
  | skipped + 1, _ :: rest => tokensAfter s skipped rest
  | 0, c :: rest =>
      match s.step (c :: rest) with
      | .error ending => ⟨[], some ending⟩
      | .ok (found, next, length) =>
          let others := tokensAfter next (length - 1) rest
          { others with tokens := found ++ others.tokens }

end Layout

/-- A text in which every line ends in a line feed alone. -/
def unifyLines : List Char → List Char
  | '\r' :: '\n' :: rest => '\n' :: unifyLines rest
  | '\r' :: rest => '\n' :: unifyLines rest
  | c :: rest => c :: unifyLines rest
  | [] => []

/-- The tokens of a text. -/
def tokensOf (cs : List Char) : Tokens :=
  Layout.start.tokensAfter 0 (unifyLines cs)

end FuzzSynth.Literal

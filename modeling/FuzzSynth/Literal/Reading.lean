/-
Reading expressions.

`read` finds what a pattern fits at a place of the tokens.  What some rules find is kept,
so that no place is read by them twice; a rule that starts with itself is read again and
again, each time with what it has found before, as long as it finds more.  A text that
cannot be read is read a second time, to say why.
-/
import FuzzSynth.Literal.Grammar
import FuzzSynth.Literal.Layout
import FuzzSynth.Literal.Quotation

namespace FuzzSynth.Literal

open FuzzSynth.Text

/-! ## Numbers -/

/-- The expression that a number is. -/
def numberOf (cs : List Char) : Except Fault Expr :=
  let digits := cs.filter (· != '_')
  let based := fun (base : Nat) (cs : List Char) =>
    Except.ok (Expr.whole (ofDigits base (cs.filterMap hexValue?)))
  match digits.map Char.toLower with
  | '0' :: 'x' :: rest => based 16 rest
  | '0' :: 'o' :: rest => based 8 rest
  | '0' :: 'b' :: rest => based 2 rest
  | lowered =>
      if lowered.contains 'j' then .ok .imaginary
      else if lowered.contains '.' || lowered.contains 'e' then .ok .fraction
      else if digitLimit < digits.length && digits.any (· != '0') then
        .error (.tooManyDigits digits.length)
      else based 10 digits

/-! ## Places -/

/-- What is read. -/
structure Source where
  tokens : Array Token
  ending : Option Ending
  /-- Whether this is the expression of a field. -/
  isField : Bool
  /-- What the texts of one or more tokens make. -/
  quotation : List (List Char) → Except TextFault Expr

/-- What a rule has found at a place: expressions, or nothing, and the place after it. -/
structure Found where
  rule : Rule
  parts : Option (List Expr)
  stop : Nat

/-- How far a reading has come. -/
structure Progress where
  place : Nat
  /-- How many tokens have been looked at. -/
  seen : Nat
  /-- Whether this is a second reading. -/
  isSecond : Bool
  /-- What rules have found, by place. -/
  found : Array (List Found)

/-- What comes of a pattern. -/
inductive Outcome where
  | fits (parts : List Expr)
  | fails
  /-- It does not fit, and no other choice of its rule does. -/
  | refuses

/-- Why a reading stops, and how many tokens have been looked at. -/
structure Stop where
  fault : Fault
  /-- Whether there are no more tokens. -/
  atEnding : Bool
  seen : Nat

/-- What is said about a fault of an expression. -/
def Source.fault (src : Source) (fault : Fault) : Fault :=
  if src.isField then .inField fault else fault

/-- The token at a place, if there is one. -/
def Source.look (src : Source) (p : Progress) : Except Stop (Option Token × Progress) :=
  match src.tokens[p.place]? with
  | some t => .ok (some t, { p with seen := max p.seen (p.place + 1) })
  | none =>
      match src.ending with
      | some ending => .error ⟨ending.fault, true, p.seen⟩
      | none => .ok (none, p)

namespace Progress

/-- The same at another place. -/
def goto (p : Progress) (place : Nat) : Progress := { p with place := place }

/-- What a rule has found at a place. -/
def kept? (p : Progress) (r : Rule) : Option Found :=
  p.found[p.place]?.bind fun found => found.find? (·.rule == r)

/-- What a rule has found at a place is kept. -/
def keep (p : Progress) (place : Nat) (found : Found) : Progress :=
  { p with found := p.found.modify place fun others =>
      found :: others.filter (·.rule != found.rule) }

/-- What is known after a rule whose result has been kept. -/
def resume (p : Progress) (found : Found) : Outcome × Progress :=
  match found.parts with
  | some parts => (.fits parts, p.goto found.stop)
  | none => (.fails, p)

end Progress

/-! ## Patterns -/

/-- What has been found by a token: an expression if the token fits. -/
def Source.take (src : Source) (p : Progress) (make : Token → Option (Except Fault (List Expr))) :
    Except Stop (Outcome × Progress) := do
  let (token, p) ← src.look p
  match token.bind make with
  | none => .ok (.fails, p)
  | some (.ok parts) => .ok (.fits parts, p.goto (p.place + 1))
  | some (.error fault) => .error ⟨fault, false, p.seen⟩

/-- One token of a kind, without what it is made into. -/
def Source.takeIf (src : Source) (p : Progress) (fits : Token → Bool) :
    Except Stop (Outcome × Progress) :=
  src.take p fun t => if fits t then some (.ok []) else none

/-- The texts that stand side by side at a place. -/
def Source.textsAt (src : Source) (place : Nat) : List Token :=
  (src.tokens.toList.drop place).takeWhile (·.kind == .text)

/-- What a rule that starts with itself finds, which has found `best` before the place
`stop`: as long as it finds more, it is read again. -/
def grow (once : Progress → Except Stop (Outcome × Progress)) (r : Rule) (start : Nat) :
    (rounds : Nat) → (best : Option (List Expr)) → (stop : Nat) → Progress →
    Except Stop (Outcome × Progress)
  | 0, best, stop, p => .ok ((p.goto start).resume ⟨r, best, stop⟩)
  | rounds + 1, best, stop, p => do
      let found : Found := ⟨r, best, stop⟩
      let (outcome, p) ← once ((p.keep start found).goto start)
      match outcome with
      | .fits parts =>
          if stop < p.place then grow once r start rounds (some parts) p.place p
          else .ok ((p.goto start).resume found)
      | _ => .ok ((p.goto start).resume found)

/-- What a pattern fits at a place. -/
def read (src : Source) : (fuel : Nat) → Pattern → Progress →
    Except Stop (Outcome × Progress)
  | 0, _, p => .ok (.fails, p)
  | fuel + 1, pattern, p =>
      match pattern with
      | .done => .ok (.fits [], p)
      | .mark s => src.takeIf p (·.reads s)
      | .kind k => src.takeIf p (·.kind == k)
      | .name =>
          src.take p fun t =>
            if t.kind == .name then some (.ok [.name (String.ofList t.chars)]) else none
      | .softKeyword =>
          src.takeIf p fun t => t.kind == .name && mayBeginStatement t.chars
      | .number =>
          src.take p fun t =>
            if t.kind == .number then
              some ((numberOf t.chars).map (fun e => [e]) |>.mapError src.fault)
            else none
      | .texts => do
          let texts := src.textsAt p.place
          let (_, after) ← src.look (p.goto (p.place + texts.length))
          if texts.isEmpty then .ok (.fails, after.goto p.place)
          else
            match src.quotation (texts.map (·.chars)) with
            | .ok e => .ok (.fits [e], after)
            | .error trouble =>
                let fault :=
                  if trouble.inExpression then trouble.fault else src.fault trouble.fault
                .error ⟨fault, false, after.seen⟩
      | .rule r =>
          match p.kept? r with
          | some found => .ok (p.resume found)
          | none =>
              if r.isLeftRecursive then
                grow (read src fuel r.pattern) r p.place (src.tokens.size + 2) none p.place p
              else do
                let (outcome, after) ← read src fuel r.pattern p
                let found : Found :=
                  match outcome with
                  | .fits parts => ⟨r, some parts, after.place⟩
                  | _ => ⟨r, none, p.place⟩
                let after := if r.isKept then after.keep p.place found else after
                .ok ((after.goto p.place).resume found)
      | .andThen first next => do
          let (outcome, after) ← read src fuel first p
          match outcome with
          | .fits parts => do
              let (outcome, last) ← read src fuel next after
              match outcome with
              | .fits more => .ok (.fits (parts ++ more), last)
              | outcome => .ok (outcome, last.goto p.place)
          | outcome => .ok (outcome, after.goto p.place)
      | .orElse first other => do
          let (outcome, after) ← read src fuel first p
          match outcome with
          | .fits parts => .ok (.fits parts, after)
          | .refuses => .ok (.fails, after.goto p.place)
          | .fails => do
              let (outcome, after) ← read src fuel other (after.goto p.place)
              match outcome with
              | .fits parts => .ok (.fits parts, after)
              | _ => .ok (.fails, after.goto p.place)
      | .many q => do
          let (outcome, after) ← read src fuel q p
          match outcome with
          | .fits parts =>
              if p.place < after.place then do
                let (outcome, last) ← read src fuel (.many q) after
                match outcome with
                | .fits more => .ok (.fits (parts ++ more), last)
                | _ => .ok (.fits parts, last.goto after.place)
              else .ok (.fits parts, after)
          | _ => .ok (.fits [], after.goto p.place)
      | .ahead q => do
          let (outcome, after) ← read src fuel q p
          match outcome with
          | .fits _ => .ok (.fits [], after.goto p.place)
          | _ => .ok (.fails, after.goto p.place)
      | .absent q => do
          let (outcome, after) ← read src fuel q p
          match outcome with
          | .fits _ => .ok (.fails, after.goto p.place)
          | _ => .ok (.fits [], after.goto p.place)
      | .settled q => do
          let (outcome, after) ← read src fuel q p
          match outcome with
          | .fits parts => .ok (.fits parts, after)
          | _ => .ok (.refuses, after)
      | .second q => if p.isSecond then read src fuel q p else .ok (.fails, p)
      | .plainly q => do
          let (outcome, after) ← read src fuel q { p with isSecond := false }
          .ok (outcome, { after with isSecond := p.isSecond })
      | .make q f => do
          let (outcome, after) ← read src fuel q p
          match outcome with
          | .fits parts =>
              let depth := (src.tokens[after.place - 1]?.map (·.depth)).getD 0
              match f depth parts with
              | .ok (some e) => .ok (.fits [e], after)
              | .ok none => .ok (.refuses, after.goto p.place)
              | .error fault => .error ⟨src.fault fault, false, after.seen⟩
          | outcome => .ok (outcome, after.goto p.place)

/-! ## Whole texts -/

/-- The fault that comes before another one, after some tokens have been looked at: the
tokens may have a fault that comes first, or a bracket is open since an earlier line. -/
def Source.earlier? (src : Source) (seen : Nat) : Option Fault := do
  let ending ← src.ending
  if ending.isUrgent then some ending.fault
  else
    let bracket ← ending.opened
    let last ← src.tokens[seen - 1]?
    if bracket.line < last.line then some (src.fault (.neverClosed bracket.char)) else none

/-- What is said about a reading that stops.  A fault of the tokens that have not been
looked at comes first, unless the last token that has been looked at meets the end. -/
def Source.stopped (src : Source) (stop : Stop) : Fault :=
  if stop.atEnding then
    if src.ending.any (·.isUrgent) then stop.fault else src.fault stop.fault
  else if src.tokens[stop.seen - 1]?.any (·.meetsEnd) then stop.fault
  else (src.earlier? stop.seen).getD stop.fault

/-- What is said about tokens that no rule fits, of which `seen` have been looked at in the
first reading and `seenAgain` in both. -/
def Source.unread (src : Source) (seen seenAgain : Nat) : Fault :=
  match src.tokens[seen - 1]?.map Token.kind with
  | some Kind.indent => .unexpectedIndent
  | some Kind.unindent => .unexpectedUnindent
  | _ => (src.earlier? seenAgain).getD (src.fault .general)

/-- The expression that a rule finds in all tokens. -/
def Source.expression (src : Source) (r : Rule) : Except Fault Expr :=
  let start := fun (seen : Nat) (isSecond : Bool) =>
    (⟨0, seen, isSecond, Array.replicate (src.tokens.size + 1) []⟩ : Progress)
  let fuel := (src.tokens.size + 2) * 1000
  match read src fuel (.rule r) (start 0 false) with
  | .error stop => .error (src.stopped stop)
  | .ok (.fits [e], _) => .ok e
  | .ok (_, first) =>
      match read src fuel (.rule r) (start first.seen true) with
      | .error stop => .error (src.stopped stop)
      | .ok (_, again) => .error (src.unread first.seen again.seen)

/-- The expression that a text is; `depth` tells how far fields may be nested in it. -/
def expressionIn : (depth : Nat) → (isField : Bool) → List Char → Except Fault Expr
  | 0, _, _ => .error .general
  | depth + 1, isField, cs =>
      let tokens := tokensOf cs
      let check := fun field => (expressionIn depth true ('(' :: field ++ [')'])).map fun _ => ()
      let src : Source :=
        ⟨tokens.tokens.toArray, tokens.ending, isField, quotation check⟩
      src.expression (if isField then .field else .whole)

/-- The expression that a text is. -/
def expressionOf (cs : List Char) : Except Fault Expr :=
  expressionIn (cs.length + 1) false cs

end FuzzSynth.Literal

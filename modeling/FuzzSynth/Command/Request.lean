/-
Requests.

A command line asks for one of two things: to synthesize drivers and show or export
them, or to inspect what a run gives.  Otherwise the line asks for help or for the
version, or it is not understood.
-/
import FuzzSynth.Command.Option

namespace FuzzSynth.Command

/-- What is asked for. -/
inductive Action where
  | synthesize (facts : String) (out : Option String) (assignments : List String)
  | inspect (facts : String) (outline : Bool) (assignments : List String)
  deriving DecidableEq, Repr, Inhabited

/-- What is asked for, and whether the record is to be shown in full. -/
structure Request where
  verbose : Bool
  action : Action
  deriving DecidableEq, Repr, Inhabited

/-- Why a command line asks for nothing to be done. -/
inductive Stop where
  | help
  | version
  /-- The line is not understood. -/
  | misused
  deriving DecidableEq, Repr, Inhabited

/-! ## What stands before the command -/

/-- An option before the command. -/
inductive Leading where
  | help
  | version
  | verbose
  deriving DecidableEq, Repr, Inhabited

/-- The options before the command. -/
def leadingTable : List (Switch Leading) :=
  [⟨"-h".toList, .none, .help⟩, ⟨"--help".toList, .none, .help⟩,
   ⟨"--version".toList, .none, .version⟩,
   ⟨"-v".toList, .none, .verbose⟩, ⟨"--verbose".toList, .none, .verbose⟩]

/-! ## What follows the command -/

/-- An option after the command. -/
inductive Trailing where
  | help
  | out
  | outline
  | assign
  deriving DecidableEq, Repr, Inhabited

/-- The options of every command. -/
def helpTable : List (Switch Trailing) :=
  [⟨"-h".toList, .none, .help⟩, ⟨"--help".toList, .none, .help⟩]

/-- The options after `synthesize`. -/
def synthesizeTable : List (Switch Trailing) :=
  helpTable ++ [⟨"--out".toList, .one, .out⟩, ⟨"--config".toList, .many, .assign⟩]

/-- The options after `inspect`. -/
def inspectTable : List (Switch Trailing) :=
  helpTable ++ [⟨"--drivers".toList, .none, .outline⟩, ⟨"--config".toList, .many, .assign⟩]

/-- What has been read after the command. -/
structure Draft where
  facts : Option String
  out : Option String
  outline : Bool
  assignments : List String
  /-- Whether there was something that has no meaning. -/
  excess : Bool
  deriving DecidableEq, Repr, Inhabited

namespace Draft

/-- Nothing has been read. -/
def empty : Draft := ⟨none, none, false, [], false⟩

/-- Takes an option with its arguments. -/
def take (meaning : Trailing) (arguments : List String) (d : Draft) : Except Stop Draft :=
  match meaning with
  | .help => .error .help
  | .out => .ok { d with out := arguments.head? }
  | .outline => .ok { d with outline := true }
  | .assign => .ok { d with assignments := arguments }

/-- Takes an argument that is no option. -/
def takePlain (arg : String) (d : Draft) : Draft :=
  match d.facts with
  | none => { d with facts := some arg }
  | some _ => { d with excess := true }

end Draft

/-- The arguments that an option takes from those that follow it. -/
def following? (arity : Arity) (words : List (String × Word Trailing)) : Option (List String) :=
  let plain := (words.takeWhile fun w => w.2.isPlain).map Prod.fst
  match arity with
  | .none => some []
  | .one => plain.head?.map fun arg => [arg]
  | .many => some plain

/-- Takes the options of one word; the last of them may take what follows the word.
The number of arguments taken from there comes with the result. -/
def takeOptions (following : List (String × Word Trailing)) :
    List (Switch Trailing × Option (List Char)) → Draft → Except Stop (Draft × Nat)
  | [], d => .ok (d, 0)
  | (s, some cs) :: rest, d => do
      takeOptions following rest (← d.take s.meaning [String.ofList cs])
  | [(s, none)], d =>
      match following? s.arity following with
      | none => .error .misused
      | some arguments => (d.take s.meaning arguments).map fun d' => (d', arguments.length)
  | (s, none) :: rest, d => do
      takeOptions following rest (← d.take s.meaning [])

/-- Reads what follows the command; `skip` more arguments have been taken already. -/
def readWords (table : List (Switch Trailing)) :
    (skip : Nat) → List (String × Word Trailing) → Draft → Except Stop Draft
  | _, [], d => .ok d
  | skip + 1, _ :: rest, d => readWords table skip rest d
  | 0, (arg, .plain) :: rest, d =>
      match d.facts, rest with
      | none, (_, .separator) :: _ => readWords table 1 rest (d.takePlain arg)
      | _, _ => readWords table 0 rest (d.takePlain arg)
  | 0, (_, .separator) :: rest, d =>
      readWords table 0 rest (if d.facts.isSome || rest.isEmpty then { d with excess := true } else d)
  | 0, (_, .option s attached) :: rest, d =>
      match unpack table s attached with
      | none => .error .misused
      | some options => do
          let (d', skip) ← takeOptions rest options d
          readWords table skip rest d'
  | 0, (_, .unknown) :: rest, d => readWords table 0 rest { d with excess := true }
  | 0, (_, .ambiguous) :: _, _ => .error .misused

/-- Reads the arguments after the command; the facts file has to be among them. -/
def readTrailing (table : List (Switch Trailing)) (args : List String) :
    Except Stop (String × Draft) := do
  let words := understandAll table args
  if words.any fun w => w.2.isAmbiguous then .error .misused
  else
    let d ← readWords table 0 words .empty
    match d.facts with
    | some facts => if d.excess then .error .misused else .ok (facts, d)
    | none => .error .misused

/-- Reads the arguments after a command. -/
def readAction (command : String) (args : List String) : Except Stop Action :=
  if command == "synthesize" then
    (readTrailing synthesizeTable args).map fun (facts, d) => .synthesize facts d.out d.assignments
  else if command == "inspect" then
    (readTrailing inspectTable args).map fun (facts, d) => .inspect facts d.outline d.assignments
  else .error .misused

/-! ## The whole line -/

/-- Takes the options before the command that one word stands for. -/
def takeLeading : List (Switch Leading × Option (List Char)) → (verbose : Bool) → Except Stop Bool
  | [], verbose => .ok verbose
  | (s, _) :: rest, _ =>
      match s.meaning with
      | .help => .error .help
      | .version => .error .version
      | .verbose => takeLeading rest true

/-- Reads the options before the command, and the command; an option without a meaning
is an error, but only once everything else has been read. -/
def readLeading : (verbose excess : Bool) → List (String × Word Leading) → Except Stop Request
  | _, _, [] => .error .misused
  | verbose, excess, (command, .plain) :: rest => do
      let action ← readAction command (rest.map Prod.fst)
      if excess then .error .misused else .ok ⟨verbose, action⟩
  | verbose, excess, (_, .option s attached) :: rest =>
      match unpack leadingTable s attached with
      | none => .error .misused
      | some options => do
          readLeading (← takeLeading options verbose) excess rest
  | verbose, _, (_, .unknown) :: rest => readLeading verbose true rest
  | _, _, (_, .separator) :: _ => .error .misused
  | _, _, (_, .ambiguous) :: _ => .error .misused

/-- What a command line asks for. -/
def Request.ofArguments (args : List String) : Except Stop Request :=
  let words := understandAll leadingTable args
  if words.any fun w => w.2.isAmbiguous then .error .misused else readLeading false false words

end FuzzSynth.Command

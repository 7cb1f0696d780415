/-
One step of the search.

A step looks at the first pending input of a branch.  If the input has producers
and the caps allow one more call, a branch is made for each of the producers that
are tried, and one with a seed if seeds are always offered.  Otherwise a seed fills
the input, if its type allows that.  Otherwise the branch is a dead end.
-/
import FuzzSynth.Diagnostic
import FuzzSynth.Search.Branch
import FuzzSynth.Search.Settings

namespace FuzzSynth

/-! ## How often functions were used -/

/-- How many accepted drivers call each function, by key. -/
abbrev Usage := List (String × Nat)

namespace Usage

/-- The number of drivers that call a function. -/
def count (usage : Usage) (key : String) : Nat :=
  match usage with
  | [] => 0
  | (k, n) :: rest => if k = key then n else count rest key

/-- Counts one more driver that calls a function. -/
def bump (key : String) : Usage → Usage
  | [] => [(key, 1)]
  | (k, n) :: rest => if k = key then (k, n + 1) :: rest else (k, n) :: bump key rest

/-- Counts one more driver that calls these functions. -/
def bumpAll (keys : List String) (usage : Usage) : Usage :=
  keys.foldl (fun usage key => bump key usage) usage

theorem count_bump (key k : String) (usage : Usage) :
    count (bump key usage) k = if key = k then count usage k + 1 else count usage k := by
  induction usage with
  | nil => by_cases h : key = k <;> simp [bump, count, h]
  | cons entry rest ih =>
      obtain ⟨k', n⟩ := entry
      by_cases h : k' = key
      · subst h
        by_cases hk : k' = k <;> simp [bump, count, hk]
      · by_cases hk : k' = k
        · subst hk
          simp [bump, count, h, Ne.symm h]
        · simp [bump, count, h, hk, ih]

end Usage

/-! ## Steps -/

/-- Why a branch cannot be continued. -/
inductive DeadEnd where
  /-- The input has producers, but the caps do not allow another call. -/
  | outOfBudget (item : Pending) (maxDepth maxCalls : Int)
  /-- Nothing can fill the input. -/
  | unfillable (item : Pending)
  deriving DecidableEq, Repr

namespace DeadEnd

/-- The input as it is named in messages. -/
def inputText (item : Pending) : String :=
  "'" ++ item.name ++ ": " ++ item.type.render ++ "' of " ++ item.consumer.api.key

/-- What is said about a dead end. -/
def message : DeadEnd → String
  | outOfBudget item maxDepth maxCalls =>
      "Input " ++ inputText item ++ " needs a producer beyond depth " ++ Json.intText maxDepth ++
        " or " ++ Json.intText maxCalls ++ " calls"
  | unfillable item => "No producer or seed for input " ++ inputText item

/-- The caps that the message states. -/
def caps : DeadEnd → List Int
  | outOfBudget _ maxDepth maxCalls => [maxDepth, maxCalls]
  | unfillable _ => []

/-- The kind of diagnostic a dead end leaves. -/
def kind : DeadEnd → DiagnosticKind
  | outOfBudget _ _ _ => .budgetExceeded
  | unfillable _ => .deadEndBinding

/-- The diagnostic for a dead end on the way to a target. -/
def diagnostic (d : DeadEnd) (target : Node) : Diagnostic :=
  ⟨d.kind, target.api.key, d.message, d.caps⟩

end DeadEnd

namespace SearchSettings

/-- The producers of an input in the order in which they are tried. -/
def order (settings : SearchSettings) (usage : Usage) (edges : List Edge) : List Edge :=
  match settings.tieBreak with
  | .declaration => edges
  | .shortest => Sequence.rankSort (fun e => e.producer.api.inputs.length) edges
  | .diversity => Sequence.rankSort (fun e => usage.count e.producer.api.key) edges

/-- Whether one more call below an input keeps to the caps. -/
def allowsCall (settings : SearchSettings) (b : Branch) (item : Pending) : Bool :=
  (item.depth : Int) + 1 ≤ settings.maxDepth && (b.calls.length : Int) < settings.maxCalls

/-- The branches that fill the first pending input in every way that is tried. -/
def expand (settings : SearchSettings) (graph : Graph) (usage : Usage) (id : Nat) (b : Branch)
    (item : Pending) (rest : List Pending) : Except DeadEnd (List Branch) :=
  let edges := graph.producersFor item.consumer item.slot.input
  if !edges.isEmpty && settings.allowsCall b item then
    let tried := Sequence.cut settings.maxBranching (settings.order usage edges)
    let seeded := if item.type.isFuzzable && settings.offerSeed then [b.withSeed id item rest] else []
    .ok (tried.map (b.withProducer id item rest) ++ seeded)
  else if item.type.isFuzzable then .ok [b.withSeed id item rest]
  else if edges.isEmpty then .error (.unfillable item)
  else .error (.outOfBudget item settings.maxDepth settings.maxCalls)

end SearchSettings

end FuzzSynth

/-
The search for drivers.

The search goes backward from a target and depth first.  Every branch made so far
is kept in an arena, where its place is its number; a stack holds those not yet
looked at.  A step takes the branch on top: a finished one is accepted, another one
is replaced by the branches that fill its first pending input, the preferred one on
top.  The search ends when the stack is empty, enough drivers are accepted, or the
allowed number of steps has been taken.
-/
import FuzzSynth.Log
import FuzzSynth.Search.Step

namespace FuzzSynth

/-- The state of a search. -/
structure SearchState where
  /-- Every branch made so far; its place is its number. -/
  arena : Array Branch
  /-- The branches to look at, with their numbers, the next one first. -/
  stack : List (Nat × Branch)
  /-- The finished branches that were accepted, in order. -/
  accepted : Array Branch
  usage : Usage
  report : Array Diagnostic
  log : Array LogEntry
  /-- The number of steps taken. -/
  expansions : Nat
  deriving Repr, Inhabited

/-- What a search has found. -/
structure Outcome where
  target : Node
  /-- The accepted branches, in order. -/
  accepted : List Branch
  report : Report
  log : Log
  /-- The number of steps taken. -/
  expansions : Nat
  deriving Repr, Inhabited

namespace SearchState

/-- The state before the first step. -/
def start (target : Node) : SearchState :=
  ⟨#[.root target], [(0, .root target)], #[], [], #[], #[], 0⟩

/-- Makes a branch the next one to look at. -/
def push (b : Branch) (s : SearchState) : SearchState :=
  { s with arena := s.arena.push b, stack := (s.arena.size, b) :: s.stack }

/-- Makes branches the next ones to look at, the first of them first. -/
def pushAll (branches : List Branch) (s : SearchState) : SearchState :=
  branches.foldr push s

/-- Adds a diagnostic. -/
def record (d : Diagnostic) (s : SearchState) : SearchState :=
  { s with report := s.report.push d }

/-- Adds an entry to the record. -/
def note (entry : LogEntry) (s : SearchState) : SearchState :=
  { s with log := s.log.push entry }

end SearchState

/-- The diagnostic for a driver without seeds where seeds are required. -/
def noSeedDiagnostic (target : Node) : Diagnostic :=
  ⟨.deadEndBinding, target.api.key, "Driver has no raw fuzz input", []⟩

/-- The diagnostic for a search that was cut short. -/
def exhaustedDiagnostic (target : Node) (maxExpansions : Int) : Diagnostic :=
  ⟨.budgetExceeded, target.api.key,
    "Expansion budget of " ++ Json.intText maxExpansions ++ " steps exhausted", [maxExpansions]⟩

/-- The record of a branch that is a dead end. -/
def rejectionEntry (target : Node) (id : Nat) (b : Branch) (d : DeadEnd) : LogEntry :=
  let parent : Int := match b.parent with
    | some n => n
    | none => -1
  ⟨.debug, "Branch #" ++ Json.intText id ++ " (from #" ++ Json.intText parent ++ ") of " ++
    target.api.key ++ " rejected: " ++ d.message⟩

/-- The record of a search that ended. -/
def searchEntry (target : Node) (drivers expansions : Nat) : LogEntry :=
  ⟨.debug, target.api.key ++ ": " ++ Json.intText drivers ++ " drivers after " ++
    Json.intText expansions ++ " expansions"⟩

namespace SearchSettings

/-- Accepts a finished branch, or refuses it for having no seed. -/
def finish (settings : SearchSettings) (target : Node) (b : Branch) (s : SearchState) : SearchState :=
  if settings.requireSeed && b.seeds.isEmpty then s.record (noSeedDiagnostic target)
  else { s with accepted := s.accepted.push b, usage := s.usage.bumpAll b.keys }

/-- Looks at a branch that is no longer on the stack. -/
def visit (settings : SearchSettings) (graph : Graph) (target : Node) (id : Nat) (b : Branch)
    (s : SearchState) : SearchState :=
  match b.pending with
  | [] => settings.finish target b s
  | item :: rest =>
      match settings.expand graph s.usage id b item rest with
      | .ok branches => s.pushAll branches
      | .error d => (s.record (d.diagnostic target)).note (rejectionEntry target id b d)

/-- Whether as many drivers are accepted as are wanted. -/
def hasEnough (settings : SearchSettings) (s : SearchState) : Bool :=
  settings.maxDrivers ≤ s.accepted.size

/-- Takes steps until the search ends; `budget` more steps are allowed. -/
def loop (settings : SearchSettings) (graph : Graph) (target : Node) :
    (budget : Nat) → SearchState → SearchState
  | budget, s =>
      match s.stack with
      | [] => s
      | (id, b) :: rest =>
          if settings.hasEnough s then s
          else
            match budget with
            | 0 => s.record (exhaustedDiagnostic target settings.maxExpansions)
            | budget + 1 =>
                loop settings graph target budget
                  (settings.visit graph target id b
                    { s with stack := rest, expansions := s.expansions + 1 })

/-- The search for drivers of a target. -/
def search (settings : SearchSettings) (graph : Graph) (target : Node) : Outcome :=
  let s := settings.loop graph target settings.maxExpansions.toNat (.start target)
  { target := target
    accepted := s.accepted.toList
    report := s.report.toList
    log := s.log.toList ++ [searchEntry target s.accepted.size s.expansions]
    expansions := s.expansions }

end SearchSettings

/-- The drivers that a search has found. -/
def Outcome.drivers (outcome : Outcome) : List Driver :=
  outcome.accepted.filterMap fun b => b.driver? outcome.target

end FuzzSynth

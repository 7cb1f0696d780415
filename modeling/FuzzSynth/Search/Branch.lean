/-
Partial drivers.

A branch is a driver under construction, built backward from its target.  Its calls
are numbered in the order in which they were added, the target first; its pending
inputs wait in a queue.  A branch with nothing pending becomes a driver by turning
the order of its calls around, which puts every producer before its consumer.
-/
import FuzzSynth.Driver

namespace FuzzSynth

/-- An input of a call of a branch. -/
structure Slot where
  call : Nat
  input : Nat
  deriving DecidableEq, Repr, Inhabited

/-- What fills a slot of a branch. -/
inductive Filling where
  /-- A seed, by its number. -/
  | seed (index : Nat)
  /-- The output of a call of the branch, through an adapter. -/
  | call (id : Nat) (adapter : Adapter)
  deriving DecidableEq, Repr, Inhabited

/-- An input that nothing fills yet. -/
structure Pending where
  slot : Slot
  consumer : Node
  /-- The name of the input. -/
  name : String
  type : Ty
  /-- How far the consuming call is below the target. -/
  depth : Nat
  deriving DecidableEq, Repr, Inhabited

/-- A driver under construction. -/
structure Branch where
  /-- The calls with their distance to the target, in order of creation. -/
  calls : List (Node × Nat)
  pending : List Pending
  /-- What fills the slots that are not pending any more. -/
  bindings : List (Slot × Filling)
  /-- The slots that seeds fill, by the number of the seed. -/
  seeds : List Slot
  /-- The number of the branch this one was made from. -/
  parent : Option Nat
  deriving DecidableEq, Repr, Inhabited

/-- The inputs of a new call. -/
def Pending.ofCall (id : Nat) (node : Node) (depth : Nat) : List Pending :=
  node.api.inputs.mapIdx fun i (name, type) => ⟨⟨id, i⟩, node, name, type, depth⟩

namespace Branch

/-- The branch that holds nothing but the call of the target. -/
def root (target : Node) : Branch :=
  ⟨[(target, 0)], Pending.ofCall 0 target 0, [], [], none⟩

/-- Fills the input in front of the queue `rest` by a new call of a producer. -/
def withProducer (b : Branch) (id : Nat) (item : Pending) (rest : List Pending) (e : Edge) : Branch :=
  let callId := b.calls.length
  let depth := item.depth + 1
  { calls := b.calls ++ [(e.producer, depth)]
    pending := rest ++ Pending.ofCall callId e.producer depth
    bindings := b.bindings ++ [(item.slot, .call callId e.adapter)]
    seeds := b.seeds
    parent := some id }

/-- Fills the input in front of the queue `rest` by a new seed. -/
def withSeed (b : Branch) (id : Nat) (item : Pending) (rest : List Pending) : Branch :=
  { calls := b.calls
    pending := rest
    bindings := b.bindings ++ [(item.slot, .seed b.seeds.length)]
    seeds := b.seeds ++ [item.slot]
    parent := some id }

/-- The keys of the functions called, each once. -/
def keys (b : Branch) : List String :=
  Sequence.distinct (b.calls.map fun c => c.1.api.key)

/-! ## Drivers -/

/-- What fills a slot. -/
def filling? (b : Branch) (slot : Slot) : Option Filling :=
  (b.bindings.find? fun binding => binding.1 == slot).map Prod.snd

/-- The position that a call gets in the driver. -/
def position (b : Branch) (id : Nat) : Int :=
  (b.calls.length : Int) - 1 - id

/-- The binding that a filling becomes. -/
def bindingOf (b : Branch) : Filling → Binding
  | .seed index => .seed index
  | .call id adapter => .call (b.position id) adapter

/-- The call of the driver that a call becomes, if all its inputs are filled. -/
def driverCall? (b : Branch) (id : Nat) (node : Node) : Option DriverCall := do
  let fillings ← (List.range node.api.inputTypes.length).mapM fun i => b.filling? ⟨id, i⟩
  pure ⟨node, fillings.map b.bindingOf⟩

/-- The seed of the driver that fills a slot. -/
def seedPoint? (b : Branch) (index : Nat) (slot : Slot) : Option SeedPoint := do
  let call ← b.calls[slot.call]?
  let type ← call.1.api.inputTypes[slot.input]?
  pure ⟨index, type, b.position slot.call, slot.input, type.seedLayout⟩

/-- The driver that a finished branch stands for. -/
def driver? (b : Branch) (target : Node) : Option Driver := do
  let calls ← (b.calls.mapIdx fun id c => (id, c.1)).reverse.mapM fun (id, node) =>
    b.driverCall? id node
  let seeds ← (b.seeds.mapIdx fun index slot => (index, slot)).mapM fun (index, slot) =>
    b.seedPoint? index slot
  pure ⟨target, calls, seeds⟩

end Branch

end FuzzSynth

/-
The dependency graph.

The nodes are instances, known by their place in a list.  An edge says that the
output of one node can fill one input of another, and through which adapter.  For
each input the direct producers come first, then those that are borrowed, then
those that are unwrapped, each in node order.

Producers are looked up by the type they give, so no pair of nodes is compared.
-/
import FuzzSynth.Groups
import FuzzSynth.Instance.Substitution
import FuzzSynth.Json.Writer
import FuzzSynth.Ty.Adapter

namespace FuzzSynth

/-- An instance with its place among the nodes; the place tells nodes apart. -/
structure Node where
  place : Nat
  api : Instance
  deriving DecidableEq, Repr, Inhabited

/-- The output of `producer` can fill input number `input` of `consumer`. -/
structure Edge where
  producer : Node
  consumer : Node
  input : Nat
  adapter : Adapter
  deriving DecidableEq, Repr, Inhabited

/-- Which adapters may be used besides direct use. -/
structure AdapterChoice where
  borrow : Bool
  unwrap : Bool
  deriving DecidableEq, Repr, Inhabited

/-- The nodes of a list of instances.  The places of a list are all different, so two instances that
look alike are two nodes; a list in which one object stands at two places cannot be told from that
and is not represented. -/
def nodesOf (instances : List Instance) : List Node :=
  instances.mapIdx fun place api => ⟨place, api⟩

/-- Whether the output can fill any input: it is not the unit and has no parameters. -/
def Node.isProducer (n : Node) : Bool :=
  !n.api.output.isUnit && !n.api.output.isGeneric

/-! ## Producers by type -/

/-- Nodes by the type they give. -/
structure OutputIndex where
  /-- By the output type. -/
  direct : Groups Ty Node
  /-- By the type inside the output, with the adapter that reaches it. -/
  unwrapped : Groups Ty (Node × Adapter)

namespace OutputIndex

/-- The index of a list of nodes. -/
def ofNodes (nodes : List Node) : OutputIndex :=
  let producers := nodes.filter Node.isProducer
  { direct := Groups.ofList (producers.map fun node => (node.api.output, node))
    unwrapped := Groups.ofList (producers.filterMap fun node =>
      node.api.output.unwrapped.map fun inside => (inside.1, (node, inside.2))) }

/-- The edges into one input. -/
def edgesInto (index : OutputIndex) (choice : AdapterChoice) (consumer : Node) (input : Nat)
    (wanted : Ty) : List Edge :=
  let directly := (index.direct.find wanted).map fun p => ⟨p, consumer, input, .direct⟩
  let borrowed :=
    if choice.borrow then
      match wanted.borrowed? with
      | some (inner, adapter) => (index.direct.find inner).map fun p => ⟨p, consumer, input, adapter⟩
      | none => []
    else []
  let unwrapped :=
    if choice.unwrap then
      (index.unwrapped.find wanted).map fun found => ⟨found.1, consumer, input, found.2⟩
    else []
  directly ++ borrowed ++ unwrapped

/-- The edges into each input of one node. -/
def edgesIntoEach (index : OutputIndex) (choice : AdapterChoice) (node : Node) : List (List Edge) :=
  node.api.inputTypes.mapIdx fun input wanted => index.edgesInto choice node input wanted

end OutputIndex

/-! ## The graph -/

/-- A dependency graph. -/
structure Graph where
  nodes : List Node
  /-- The edges into each input of each node. -/
  slots : Array (Array (List Edge))
  /-- The edges out of each node. -/
  outgoing : Array (Array Edge)

instance : Inhabited Graph := ⟨⟨[], #[], #[]⟩⟩

/-- Adds an edge to those out of its producer. -/
def addOutgoing (outgoing : Array (Array Edge)) (e : Edge) : Array (Array Edge) :=
  outgoing.modify e.producer.place fun edges => edges.push e

namespace Graph

/-- The graph of a list of instances. -/
def build (choice : AdapterChoice) (instances : List Instance) : Graph :=
  let nodes := nodesOf instances
  let index := OutputIndex.ofNodes nodes
  let into := nodes.map (index.edgesIntoEach choice)
  { nodes := nodes
    slots := (into.map List.toArray).toArray
    outgoing := (into.flatten.flatten).foldl addOutgoing (Array.replicate nodes.length #[]) }

/-- Every edge, ordered by consumer and input. -/
def edges (graph : Graph) : List Edge :=
  (graph.slots.toList.map Array.toList).flatten.flatten

/-- The edges into one input of a node. -/
def producersFor (graph : Graph) (consumer : Node) (input : Nat) : List Edge :=
  match graph.slots[consumer.place]? with
  | some inputs => (inputs[input]?).getD []
  | none => []

/-- The edges out of a node. -/
def consumersOf (graph : Graph) (producer : Node) : List Edge :=
  ((graph.outgoing[producer.place]?).getD #[]).toList

/-- The number of producers of all inputs of a node together. -/
def producerCount (graph : Graph) (n : Node) : Nat :=
  Sequence.total <|
    (List.range n.api.inputTypes.length).map fun i => (graph.producersFor n i).length

/-- The inputs that no node produces and no seed can fill. -/
def unreachableInputs (graph : Graph) : List (Node × Nat) :=
  graph.nodes.flatMap fun n =>
    ((n.api.inputTypes.mapIdx fun i t => (i, t)).filter fun (i, t) =>
      (graph.producersFor n i).isEmpty && !t.isFuzzable).map fun (i, _) => (n, i)

/-- The record of a graph that was built. -/
def log (graph : Graph) : Log :=
  [⟨.debug, "Dependency graph: " ++ Json.intText graph.nodes.length ++ " nodes, " ++
    Json.intText graph.edges.length ++ " edges"⟩]

end Graph

end FuzzSynth

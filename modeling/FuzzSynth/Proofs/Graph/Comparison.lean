/-
The graph against a comparison of every producer with every input.

`build` looks producers up by the type they give and keeps two tables for questions
about one input and one producer.  Here the edges are listed without any index: each
input of each node is held against each producer in turn, once for direct use, once for
the adapters that borrow and once for those that unwrap.  `build_eq_comparison` says
that the two lists are equal, order included, and that both tables answer with the part
of that list they are asked for, in the same order.

The tests of `Adapter.fills` look at one output and one input only.  On concrete types
they are the meaning of the adapters (`fills_iff_fits`).
-/
import FuzzSynth.Proofs.Graph.Producers

namespace FuzzSynth

/-! ## One output against one input -/

/-- A path type known under one of the given names, with that many arguments. -/
def Ty.isNamedAmong (paths : List String) (arity : Nat) (t : Ty) : Bool :=
  t.arity == arity && paths.any fun name => t.former == .path name

/-- Whether the output can be handed to an input of the wanted type like this. -/
def Adapter.fills (output wanted : Ty) : Adapter → Bool
  | .direct => output == wanted
  | .borrow => wanted.former == .ref && wanted.args.head? == some output
  | .borrowMut => wanted.former == .refMut && wanted.args.head? == some output
  | .unwrapResult =>
      (output.isNamedAmong resultPaths 2 || output.isNamedAmong resultAliases 1) &&
        output.args.head? == some wanted && !wanted.isUnit
  | .unwrapOption =>
      output.isNamedAmong optionPaths 1 && output.args.head? == some wanted && !wanted.isUnit

/-- The adapters that are allowed, in the groups that are listed one after the other. -/
def AdapterChoice.groups (choice : AdapterChoice) : List (List Adapter) :=
  [[.direct]] ++ (if choice.borrow then [[.borrow, .borrowMut]] else []) ++
    (if choice.unwrap then [[.unwrapResult, .unwrapOption]] else [])

/-! ## Every producer against every input -/

/-- The edges into one input through the adapters of one group, in node order. -/
def groupInto (nodes : List Node) (consumer : Node) (input : Nat) (wanted : Ty)
    (group : List Adapter) : List Edge :=
  nodes.flatMap fun p =>
    (group.filter fun a => p.isProducer && a.fills p.api.output wanted).map fun a =>
      ⟨p, consumer, input, a⟩

/-- The edges into one input. -/
def comparedInto (nodes : List Node) (choice : AdapterChoice) (consumer : Node) (input : Nat)
    (wanted : Ty) : List Edge :=
  choice.groups.flatMap (groupInto nodes consumer input wanted)

/-- All edges: for each node and each of its inputs, those into that input. -/
def comparedEdges (choice : AdapterChoice) (nodes : List Node) : List Edge :=
  nodes.flatMap fun consumer =>
    (consumer.api.inputTypes.mapIdx fun input wanted =>
      comparedInto nodes choice consumer input wanted).flatten

/-! ## What the tests mean -/

namespace Adapter

/-- The adapters that borrow are found from the wanted type. -/
theorem fills_iff_borrowed? {a : Adapter} (ha : a ∈ [borrow, borrowMut]) (output wanted : Ty) :
    a.fills output wanted = true ↔ wanted.borrowed? = some (output, a) := by
  obtain ⟨f, p, args⟩ := wanted
  rcases List.mem_pair.mp ha with rfl | rfl <;> cases f <;> cases args <;>
    simp [fills, Ty.borrowed?, Ty.former, Ty.args]

/-- Only `Result` and `Option` hold a type to unwrap, each its first argument. -/
theorem wrapped?_eq_some_iff {output inner : Ty} {a : Adapter} :
    output.wrapped? = some (inner, a) ↔ output.args.head? = some inner ∧
      (a = unwrapResult ∧ (output.isNamedAmong resultPaths 2 ∨ output.isNamedAmong resultAliases 1) ∨
        a = unwrapOption ∧ output.isNamedAmong optionPaths 1) := by
  -- a name of one argument cannot stand both for a `Result` and for an `Option`
  have hapart : ∀ name ∈ resultAliases, name ∉ optionPaths := by decide
  obtain ⟨f, p, args⟩ := output
  have hnamed : ∀ paths arity, (Ty.node f p args).isNamedAmong paths arity = true ↔
      args.length = arity ∧ ∃ name ∈ paths, f = .path name := by
    simp [Ty.isNamedAmong, Ty.arity, Ty.args, Ty.former]
  simp only [hnamed, Ty.args]
  cases f with
  | path name =>
      -- only one or two arguments are looked at
      rcases args with _ | ⟨first, _ | ⟨second, _ | ⟨third, rest⟩⟩⟩
      · simp [Ty.wrapped?]
      · simp [Ty.wrapped?]
        grind
      · simp [Ty.wrapped?]
        grind
      · simp [Ty.wrapped?]
  | _ => simp [Ty.wrapped?]

/-- The adapters that unwrap are found from the output. -/
theorem fills_iff_unwrapped {a : Adapter} (ha : a ∈ [unwrapResult, unwrapOption])
    (output wanted : Ty) :
    a.fills output wanted = true ↔ output.unwrapped = some (wanted, a) := by
  rw [Ty.unwrapped, Option.filter_eq_some_iff, wrapped?_eq_some_iff]
  rcases List.mem_pair.mp ha with rfl | rfl <;> simp [fills] <;> tauto

/-- On concrete types the tests are the meaning of the adapters. -/
theorem fills_iff_fits {output wanted : Ty} {a : Adapter} (h : wanted.IsConcrete) :
    a.fills output wanted = true ↔ a.Fits output wanted := by
  cases a with
  | direct => exact beq_iff_eq
  | borrow | borrowMut =>
      rw [fills_iff_borrowed? (by simp)]
      constructor
      · intro hb
        rcases h.eq_of_borrowed? hb with ⟨ha, ht⟩ | ⟨ha, ht⟩
        · simp_all [Fits]
        · simp_all [Fits]
      · rintro rfl
        rfl
  | unwrapResult | unwrapOption => exact fills_iff_unwrapped (by simp) output wanted

end Adapter

/-! ## The edges into one input -/

/-- One adapter at most is found in a group that has it once. -/
theorem filter_eq_toList {group : List Adapter} (hgroup : group.Nodup) {test : Adapter → Bool}
    {way : Option Adapter} (htest : ∀ a ∈ group, test a = true ↔ way = some a)
    (hway : ∀ a, way = some a → a ∈ group) : group.filter test = way.toList := by
  cases way with
  | none =>
      rw [Option.toList_none, List.filter_eq_nil_iff]
      intro a ha h
      simpa using (htest a ha).mp h
  | some b =>
      have hsame : ∀ a ∈ group, test a = (a == b) := by
        intro a ha
        rw [Bool.eq_iff_iff, htest a ha, beq_iff_eq, Option.some.injEq, eq_comm]
      rw [List.filter_congr hsame, List.filter_beq,
        List.count_eq_one_of_mem hgroup (hway b rfl)]
      rfl

/-- A group is listed through the one adapter that an output may be handed over with. -/
theorem groupInto_eq {group : List Adapter} (hgroup : group.Nodup) {wanted : Ty}
    (way : Ty → Option Adapter)
    (hfills : ∀ output, ∀ a ∈ group, a.fills output wanted = true ↔ way output = some a)
    (hway : ∀ output a, way output = some a → a ∈ group)
    (nodes : List Node) (consumer : Node) (input : Nat) :
    groupInto nodes consumer input wanted group =
      (nodes.filter Node.isProducer).filterMap fun p =>
        (way p.api.output).map fun a => ⟨p, consumer, input, a⟩ := by
  rw [List.filterMap_filter, List.filterMap_eq_flatMap_toList, groupInto]
  congr 1
  funext p
  cases p.isProducer with
  | false => simp
  | true =>
      simp only [Bool.true_and, reduceIte]
      rw [filter_eq_toList hgroup (hfills _) (hway _), Option.toList_map]

variable (nodes : List Node) (consumer : Node) (input : Nat)

/-- Looking a type up is a pass over the producers. -/
theorem map_find_direct (inner : Ty) (a : Adapter) :
    ((OutputIndex.ofNodes nodes).direct.find inner).map
        (fun p => (⟨p, consumer, input, a⟩ : Edge)) =
      (nodes.filter Node.isProducer).filterMap fun p =>
        (if p.api.output = inner then some a else none).map fun b => ⟨p, consumer, input, b⟩ := by
  rw [OutputIndex.find_direct, ← List.filterMap_eq_map, List.filterMap_filter]
  congr 1
  funext p
  by_cases h : p.api.output = inner <;> simp [h]

theorem groupInto_direct (wanted : Ty) :
    groupInto nodes consumer input wanted [.direct] =
      ((OutputIndex.ofNodes nodes).direct.find wanted).map fun p =>
        ⟨p, consumer, input, .direct⟩ := by
  rw [map_find_direct, groupInto_eq (by simp) (fun output =>
    if output = wanted then some .direct else none)]
  · intro output a ha
    obtain rfl := List.mem_singleton.mp ha
    simp [Adapter.fills]
  · intro output a h
    simp_all

theorem groupInto_borrowing (wanted : Ty) :
    groupInto nodes consumer input wanted [.borrow, .borrowMut] =
      match wanted.borrowed? with
      | some (inner, a) => ((OutputIndex.ofNodes nodes).direct.find inner).map fun p =>
          ⟨p, consumer, input, a⟩
      | none => [] := by
  rw [groupInto_eq (by simp) (fun output =>
    (wanted.borrowed?.filter fun inside => inside.1 = output).map Prod.snd)]
  · cases hb : wanted.borrowed? with
    | none => simp
    | some inside =>
        show _ = ((OutputIndex.ofNodes nodes).direct.find inside.1).map _
        rw [map_find_direct]
        congr 1
        funext p
        by_cases h : p.api.output = inside.1
        · simp [Option.filter, h]
        · simp [Option.filter, h, Ne.symm h]
  · intro output a ha
    rw [Adapter.fills_iff_borrowed? ha]
    cases wanted.borrowed? <;> simp [Option.filter, Prod.ext_iff]
  · intro output a h
    obtain ⟨inside, hinside, rfl⟩ := Option.map_eq_some_iff.mp h
    have := OutputIndex.adapter_of_borrowed? (Option.filter_eq_some_iff.mp hinside).1
    simpa using this

theorem groupInto_unwrapping (wanted : Ty) :
    groupInto nodes consumer input wanted [.unwrapResult, .unwrapOption] =
      ((OutputIndex.ofNodes nodes).unwrapped.find wanted).map fun found =>
        ⟨found.1, consumer, input, found.2⟩ := by
  rw [groupInto_eq (by simp) (fun output =>
    (output.unwrapped.filter fun inside => inside.1 = wanted).map Prod.snd)]
  · rw [OutputIndex.find_unwrapped, List.map_filterMap]
    congr 1
    funext p
    rw [Option.map_map, Option.map_map]
    rfl
  · intro output a ha
    rw [Adapter.fills_iff_unwrapped ha]
    cases output.unwrapped <;> simp [Option.filter, Prod.ext_iff]
  · intro output a h
    obtain ⟨inside, hinside, rfl⟩ := Option.map_eq_some_iff.mp h
    have := OutputIndex.adapter_of_unwrapped (Option.filter_eq_some_iff.mp hinside).1
    simpa using this

/-- The index lists the edges into an input that holding it against every node finds. -/
theorem edgesInto_eq_comparedInto (choice : AdapterChoice) (wanted : Ty) :
    (OutputIndex.ofNodes nodes).edgesInto choice consumer input wanted =
      comparedInto nodes choice consumer input wanted := by
  rw [OutputIndex.edgesInto, comparedInto, AdapterChoice.groups]
  cases choice.borrow <;> cases choice.unwrap <;> cases hb : wanted.borrowed? <;>
    simp [groupInto_direct, groupInto_borrowing, groupInto_unwrapping, hb]

/-- An edge into an input comes from a producer whose output fills it through its adapter. -/
theorem of_mem_comparedInto {nodes : List Node} {choice : AdapterChoice} {consumer : Node}
    {input : Nat} {wanted : Ty} {e : Edge}
    (he : e ∈ comparedInto nodes choice consumer input wanted) :
    e.consumer = consumer ∧ e.input = input ∧ (e.producer ∈ nodes ∧ e.producer.isProducer = true) ∧
      e.adapter.fills e.producer.api.output wanted = true := by
  obtain ⟨group, -, he⟩ := List.mem_flatMap.mp he
  obtain ⟨p, hp, he⟩ := List.mem_flatMap.mp he
  obtain ⟨a, ha, rfl⟩ := List.mem_map.mp he
  obtain ⟨hproducer, hfills⟩ := Bool.and_eq_true_iff.mp (List.mem_filter.mp ha).2
  exact ⟨rfl, rfl, ⟨hp, hproducer⟩, hfills⟩

/-! ## The tables -/

/-- A test that one block of a list of blocks passes, and no other, finds that block. -/
theorem filter_flatten_eq_block {α : Type} {blocks : List (List α)} {test : α → Bool} {k : Nat}
    (htest : ∀ (j : Nat) block, blocks[j]? = some block → ∀ a ∈ block, test a = decide (j = k)) :
    blocks.flatten.filter test = blocks[k]?.getD [] := by
  induction blocks generalizing k with
  | nil => simp
  | cons block rest ih =>
      rw [List.flatten_cons, List.filter_append]
      have hhead := htest 0 block rfl
      cases k with
      | zero =>
          -- this is the block; nothing after it passes
          have hrest : rest.flatten.filter test = [] := by
            rw [List.filter_eq_nil_iff]
            intro a ha
            obtain ⟨other, hother, ha⟩ := List.mem_flatten.mp ha
            obtain ⟨j, hj⟩ := List.mem_iff_getElem?.mp hother
            have := htest (j + 1) other hj a ha
            simpa using this
          rw [hrest, List.append_nil, List.filter_eq_self.mpr]
          · rfl
          · intro a ha
            simpa using hhead a ha
      | succ k =>
          have hblock : block.filter test = [] := by
            rw [List.filter_eq_nil_iff]
            intro a ha
            simpa using hhead a ha
          rw [hblock, List.nil_append, ih fun j other hj a ha => by
            simpa using htest (j + 1) other hj a ha]
          rfl

/-- Edges are added behind those their producer has, in the order in which they come. -/
theorem getElem?_foldl_addOutgoing (edges : List Edge) (outgoing : Array (Array Edge)) (k : Nat) :
    (edges.foldl addOutgoing outgoing)[k]? =
      outgoing[k]?.map fun before =>
        before ++ (edges.filter fun e => e.producer.place = k).toArray := by
  induction edges generalizing outgoing with
  | nil => simp
  | cons e rest ih =>
      rw [List.foldl_cons, ih, addOutgoing, Array.getElem?_modify]
      by_cases h : e.producer.place = k
      · cases outgoing[k]? <;> simp [h]
      · simp [h]

namespace Graph

variable (choice : AdapterChoice) (instances : List Instance)

/-- The edges of a graph, one list for each input of each node. -/
def rows (graph : Graph) : List (List (List Edge)) :=
  graph.slots.toList.map Array.toList

theorem rows_build :
    (build choice instances).rows =
      (nodesOf instances).map ((OutputIndex.ofNodes (nodesOf instances)).edgesIntoEach choice) := by
  simp only [rows, build, List.map_map]
  exact List.map_congr_left fun consumer _ => rfl

theorem edgesIntoEach_eq (nodes : List Node) (consumer : Node) :
    (OutputIndex.ofNodes nodes).edgesIntoEach choice consumer =
      consumer.api.inputTypes.mapIdx fun input wanted =>
        comparedInto nodes choice consumer input wanted := by
  simp only [OutputIndex.edgesIntoEach, edgesInto_eq_comparedInto]

theorem producersFor_eq_rows (graph : Graph) (consumer : Node) (input : Nat) :
    graph.producersFor consumer input =
      ((graph.rows[consumer.place]?.getD [])[input]?).getD [] := by
  rw [producersFor, rows, List.getElem?_map, Array.getElem?_toList]
  cases h : graph.slots[consumer.place]? <;> simp [h]

/-- The edges of a built graph are those that comparing every pair finds. -/
theorem edges_build :
    (build choice instances).edges = comparedEdges choice (nodesOf instances) := by
  show (build choice instances).rows.flatten.flatten = _
  rw [rows_build, List.flatten_flatten, List.map_map, comparedEdges, List.flatMap_def]
  congr 1
  apply List.map_congr_left
  intro consumer _
  rw [Function.comp_apply, edgesIntoEach_eq]

/-- An edge of a built graph lies in the slot of its consumer and input, and comes from one
of the nodes. -/
theorem eq_of_mem_rows {k i : Nat} {inputs : List (List Edge)} {slot : List Edge} {e : Edge}
    (hinputs : (build choice instances).rows[k]? = some inputs) (hslot : inputs[i]? = some slot)
    (he : e ∈ slot) : e.consumer.place = k ∧ e.input = i ∧ e.producer ∈ nodesOf instances := by
  rw [rows_build, List.getElem?_map, getElem?_nodesOf] at hinputs
  obtain ⟨c, hc, rfl⟩ := Option.map_eq_some_iff.mp hinputs
  obtain ⟨m, -, rfl⟩ := Option.map_eq_some_iff.mp hc
  rw [edgesIntoEach_eq, List.getElem?_mapIdx] at hslot
  obtain ⟨wanted, -, rfl⟩ := Option.map_eq_some_iff.mp hslot
  obtain ⟨hconsumer, hinput, ⟨hp, -⟩, -⟩ := of_mem_comparedInto he
  exact ⟨congrArg Node.place hconsumer, hinput, hp⟩

/-- The table of slots answers with the edges into the input. -/
theorem producersFor_build_eq_filter (consumer : Node) (input : Nat) :
    (build choice instances).producersFor consumer input =
      (build choice instances).edges.filter fun e =>
        e.consumer.place = consumer.place ∧ e.input = input := by
  set graph := build choice instances with hgraph
  -- first the rows of the node, then the slot among them
  have hrow : graph.edges.filter (fun e => decide (e.consumer.place = consumer.place)) =
      (graph.rows[consumer.place]?.getD []).flatten := by
    show graph.rows.flatten.flatten.filter _ = _
    rw [List.flatten_flatten, filter_flatten_eq_block (k := consumer.place), List.getElem?_map]
    · cases graph.rows[consumer.place]? <;> rfl
    · intro j row hj e he
      rw [List.getElem?_map] at hj
      obtain ⟨inputs, hinputs, rfl⟩ := Option.map_eq_some_iff.mp hj
      obtain ⟨slot, hslot, he⟩ := List.mem_flatten.mp he
      obtain ⟨i, hi⟩ := List.mem_iff_getElem?.mp hslot
      rw [(eq_of_mem_rows choice instances hinputs hi he).1]
  have hsplit : (fun e : Edge => decide (e.consumer.place = consumer.place ∧ e.input = input)) =
      fun e => decide (e.input = input) && decide (e.consumer.place = consumer.place) := by
    funext e
    rw [Bool.decide_and, Bool.and_comm]
  rw [producersFor_eq_rows, hsplit, ← List.filter_filter, hrow,
    filter_flatten_eq_block (k := input)]
  intro i slot hi e he
  cases hinputs : graph.rows[consumer.place]? with
  | none => simp [hinputs] at hi
  | some inputs =>
      rw [hinputs] at hi
      rw [(eq_of_mem_rows choice instances hinputs hi he).2.1]

/-- An edge of a built graph is one of those into an input of its consumer. -/
theorem of_mem_edges_build {e : Edge} (he : e ∈ (build choice instances).edges) :
    e.consumer ∈ nodesOf instances ∧ ∃ wanted,
      e.consumer.api.inputTypes[e.input]? = some wanted ∧
        e ∈ comparedInto (nodesOf instances) choice e.consumer e.input wanted := by
  rw [edges_build] at he
  obtain ⟨consumer, hconsumer, he⟩ := List.mem_flatMap.mp he
  obtain ⟨slot, hslot, he⟩ := List.mem_flatten.mp he
  obtain ⟨input, hinput⟩ := List.mem_iff_getElem?.mp hslot
  obtain ⟨wanted, hwanted, rfl⟩ := Option.map_eq_some_iff.mp (List.getElem?_mapIdx .. ▸ hinput)
  obtain ⟨rfl, rfl, -⟩ := of_mem_comparedInto he
  exact ⟨hconsumer, wanted, hwanted, he⟩

/-- The edges of a built graph join its nodes. -/
theorem mem_nodes_of_mem_edges {e : Edge} (he : e ∈ (build choice instances).edges) :
    e.producer ∈ nodesOf instances ∧ e.consumer ∈ nodesOf instances := by
  obtain ⟨hconsumer, _, -, hinto⟩ := of_mem_edges_build choice instances he
  exact ⟨(of_mem_comparedInto hinto).2.2.1.1, hconsumer⟩

theorem place_lt_of_mem_edges {e : Edge} (he : e ∈ (build choice instances).edges) :
    e.producer.place < instances.length := by
  have hmem := (mem_nodes_of_mem_edges choice instances he).1
  exact (List.getElem?_eq_some_iff.mp (mem_nodesOf.mp hmem)).1

/-- The table of producers answers with the edges out of the node. -/
theorem consumersOf_build_eq_filter (producer : Node) :
    (build choice instances).consumersOf producer =
      (build choice instances).edges.filter fun e => e.producer.place = producer.place := by
  have hout : (build choice instances).outgoing =
      (build choice instances).edges.foldl addOutgoing
        (Array.replicate (nodesOf instances).length #[]) := by
    show _ = (build choice instances).rows.flatten.flatten.foldl addOutgoing _
    rw [rows_build]
    rfl
  have hlength : (nodesOf instances).length = instances.length := List.length_mapIdx
  rw [consumersOf, hout, getElem?_foldl_addOutgoing, Array.getElem?_replicate, hlength]
  by_cases h : producer.place < instances.length
  · simp [h]
  · -- a node that is not in the graph gives nothing
    have hnone : ((build choice instances).edges.filter fun e =>
        e.producer.place = producer.place) = [] := by
      rw [List.filter_eq_nil_iff]
      intro e he
      have := place_lt_of_mem_edges choice instances he
      simp only [decide_eq_true_eq]
      omega
    simp [h, hnone]

/-- The nodes of a built graph are the instances in their order, known by their places. -/
theorem nodes_build : (build choice instances).nodes.map Node.api = instances ∧
    (build choice instances).nodes.map Node.place = List.range instances.length :=
  ⟨map_api_nodesOf instances, map_place_nodesOf instances⟩

/-- No edge comes from an output that is the unit or still has a parameter in it. -/
theorem output_of_mem_edges {e : Edge} (he : e ∈ (build choice instances).edges) :
    e.producer.api.output ≠ .tuple [] ∧ ∀ t ∈ e.producer.api.output.nodes, t.isParam = false := by
  obtain ⟨-, _, -, hinto⟩ := of_mem_edges_build choice instances he
  exact Node.isProducer_iff.mp (of_mem_comparedInto hinto).2.2.1.2

/-- The built graph has the edges that comparing every producer with every input finds, in
that order, and the questions about one input and about one producer are answered with
the part of that list they ask for.  Which nodes there are and which of them give edges is what
`nodes_build` and `output_of_mem_edges` say. -/
theorem build_eq_comparison :
    (build choice instances).edges = comparedEdges choice (nodesOf instances) ∧
    (∀ consumer input, (build choice instances).producersFor consumer input =
      (build choice instances).edges.filter fun e =>
        e.consumer.place = consumer.place ∧ e.input = input) ∧
    ∀ producer, (build choice instances).consumersOf producer =
      (build choice instances).edges.filter fun e => e.producer.place = producer.place :=
  ⟨edges_build choice instances, producersFor_build_eq_filter choice instances,
    consumersOf_build_eq_filter choice instances⟩

end Graph
end FuzzSynth

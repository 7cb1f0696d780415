/-
The edges into an input.

`mem_producersFor_build` says which edges the graph of a list of instances has into an
input of a node: exactly those from a node whose output fills the input, directly or
through an adapter that is allowed.  `Adapter.Fits` is the meaning of an adapter, and
`fits_of_mem_producersFor` says that on concrete instances every edge has it.  No edge
into an input is listed twice (`nodup_producersFor_build`).
-/
import Mathlib.Data.List.Nodup
import FuzzSynth.Graph
import FuzzSynth.Proofs.Ty.Shape

namespace FuzzSynth

/-- The output fills an input of the wanted type when it is handed over like this. -/
def Adapter.Fits (output wanted : Ty) : Adapter → Prop
  | .direct => output = wanted
  | .borrow => wanted = .ref output
  | .borrowMut => wanted = .refMut output
  | .unwrapResult => output.unwrapped = some (wanted, .unwrapResult)
  | .unwrapOption => output.unwrapped = some (wanted, .unwrapOption)

/-- An instance none of whose types has a parameter. -/
def Instance.IsConcrete (m : Instance) : Prop :=
  ∀ t ∈ m.signature.types, t.IsConcrete

theorem Instance.IsConcrete.of_inputTypes {m : Instance} (h : m.IsConcrete) {i : Nat} {t : Ty}
    (ht : m.inputTypes[i]? = some t) : t.IsConcrete :=
  h t (List.mem_append_left _ (List.mem_of_getElem? ht))

/-! ## Nodes -/

@[simp] theorem getElem?_nodesOf (instances : List Instance) (place : Nat) :
    (nodesOf instances)[place]? = instances[place]?.map (Node.mk place) := by
  simp [nodesOf]

/-- A node is the instance at its place. -/
theorem mem_nodesOf {instances : List Instance} {n : Node} :
    n ∈ nodesOf instances ↔ instances[n.place]? = some n.api := by
  constructor
  · intro h
    obtain ⟨place, hplace⟩ := List.mem_iff_getElem?.mp h
    obtain ⟨m, hm, rfl⟩ := Option.map_eq_some_iff.mp (getElem?_nodesOf instances place ▸ hplace)
    exact hm
  · intro h
    refine List.mem_iff_getElem?.mpr ⟨n.place, ?_⟩
    rw [getElem?_nodesOf, h]
    rfl

theorem api_mem_of_mem_nodesOf {instances : List Instance} {n : Node}
    (h : n ∈ nodesOf instances) : n.api ∈ instances :=
  List.mem_of_getElem? (mem_nodesOf.mp h)

/-- The instances of the nodes are the instances, in order. -/
theorem map_api_nodesOf (instances : List Instance) :
    (nodesOf instances).map Node.api = instances := by
  apply List.ext_getElem?
  intro i
  rw [List.getElem?_map, getElem?_nodesOf, Option.map_map]
  exact Option.map_id'

theorem map_place_nodesOf (instances : List Instance) :
    (nodesOf instances).map Node.place = List.range instances.length := by
  apply List.ext_getElem?
  intro i
  by_cases h : i < instances.length <;> simp [h]

theorem nodup_nodesOf (instances : List Instance) : (nodesOf instances).Nodup :=
  List.Nodup.of_map Node.place (map_place_nodesOf instances ▸ List.nodup_range)

/-- Producers are the nodes whose output is neither the unit nor has a parameter in it. -/
theorem Node.isProducer_iff {n : Node} : n.isProducer = true ↔
    n.api.output ≠ .tuple [] ∧ ∀ t ∈ n.api.output.nodes, t.isParam = false := by
  rw [isProducer, Bool.and_eq_true, Bool.not_eq_true', Bool.not_eq_true',
    ← Ty.isGeneric_eq_false_iff]
  refine and_congr_left fun hplain => ?_
  generalize n.api.output = output at hplain ⊢
  obtain ⟨f, p, args⟩ := output
  obtain ⟨rfl, -⟩ : p = false ∧ Ty.anyGeneric args = false := by simpa [Ty.isGeneric] using hplain
  simp [Ty.isUnit, Ty.former, Ty.args, Ty.tuple]

/-! ## Edges into one input -/

namespace OutputIndex

variable {nodes : List Node} {choice : AdapterChoice} {consumer : Node} {input : Nat}
  {wanted : Ty}

/-- The nodes that give a type. -/
theorem find_direct (nodes : List Node) (t : Ty) :
    (ofNodes nodes).direct.find t =
      (nodes.filter Node.isProducer).filter fun n => n.api.output = t := by
  rw [ofNodes, Groups.find_ofList, List.filter_map, List.map_map]
  exact List.map_id _

/-- The nodes that give a type once unwrapped, with the adapter that unwraps. -/
theorem find_unwrapped (nodes : List Node) (t : Ty) :
    (ofNodes nodes).unwrapped.find t =
      (nodes.filter Node.isProducer).filterMap fun n =>
        (n.api.output.unwrapped.filter fun inside => inside.1 = t).map fun inside =>
          (n, inside.2) := by
  rw [ofNodes, Groups.find_ofList, List.filter_filterMap, List.map_filterMap]
  congr 1
  funext n
  cases n.api.output.unwrapped with
  | none => rfl
  | some inside => by_cases h : inside.1 = t <;> simp [Option.filter, h]

theorem mem_find_direct {n : Node} {t : Ty} :
    n ∈ (ofNodes nodes).direct.find t ↔
      (n ∈ nodes ∧ n.isProducer = true) ∧ n.api.output = t := by
  rw [find_direct, List.mem_filter, List.mem_filter, decide_eq_true_eq]

theorem mem_find_unwrapped {n : Node} {a : Adapter} {t : Ty} :
    (n, a) ∈ (ofNodes nodes).unwrapped.find t ↔
      (n ∈ nodes ∧ n.isProducer = true) ∧ n.api.output.unwrapped = some (t, a) := by
  simp only [find_unwrapped, List.mem_filterMap, List.mem_filter, Option.map_eq_some_iff,
    Option.filter_eq_some_iff, decide_eq_true_eq]
  constructor
  · rintro ⟨m, hm, ⟨u, b⟩, ⟨hu, rfl⟩, heq⟩
    obtain ⟨rfl, rfl⟩ := Prod.mk.inj heq
    exact ⟨hm, hu⟩
  · rintro ⟨hn, hu⟩
    exact ⟨n, hn, (t, a), ⟨hu, rfl⟩, rfl⟩

/-- The edges into an input come from the nodes whose output fills it, directly, borrowed
or unwrapped. -/
theorem mem_edgesInto {e : Edge} :
    e ∈ (ofNodes nodes).edgesInto choice consumer input wanted ↔
      (e.consumer = consumer ∧ e.input = input) ∧
      (e.producer ∈ nodes ∧ e.producer.isProducer = true) ∧
      (e.adapter = .direct ∧ e.producer.api.output = wanted ∨
        choice.borrow = true ∧ wanted.borrowed? = some (e.producer.api.output, e.adapter) ∨
        choice.unwrap = true ∧ e.producer.api.output.unwrapped = some (wanted, e.adapter)) := by
  obtain ⟨producer, c, i, a⟩ := e
  have hdirect : ⟨producer, c, i, a⟩ ∈ ((ofNodes nodes).direct.find wanted).map
        (fun p => (⟨p, consumer, input, .direct⟩ : Edge)) ↔
      (c = consumer ∧ i = input) ∧ (producer ∈ nodes ∧ producer.isProducer = true) ∧
        a = .direct ∧ producer.api.output = wanted := by
    simp only [List.mem_map, mem_find_direct, Edge.mk.injEq]
    grind
  have hborrow : ∀ inner b, ⟨producer, c, i, a⟩ ∈ ((ofNodes nodes).direct.find inner).map
        (fun p => (⟨p, consumer, input, b⟩ : Edge)) ↔
      (c = consumer ∧ i = input) ∧ (producer ∈ nodes ∧ producer.isProducer = true) ∧
        (inner, b) = (producer.api.output, a) := by
    intro inner b
    simp only [List.mem_map, mem_find_direct, Edge.mk.injEq, Prod.mk.injEq]
    grind
  have hunwrap : ⟨producer, c, i, a⟩ ∈ ((ofNodes nodes).unwrapped.find wanted).map
        (fun found => (⟨found.1, consumer, input, found.2⟩ : Edge)) ↔
      (c = consumer ∧ i = input) ∧ (producer ∈ nodes ∧ producer.isProducer = true) ∧
        producer.api.output.unwrapped = some (wanted, a) := by
    simp only [List.mem_map, Prod.exists, mem_find_unwrapped, Edge.mk.injEq]
    grind
  -- what is left is to see which of the three groups the flags let in
  simp only [edgesInto, List.mem_append, hdirect]
  cases choice.borrow <;> cases choice.unwrap <;> cases wanted.borrowed? <;>
    simp only [reduceIte, hborrow, hunwrap, List.not_mem_nil, reduceCtorEq, Option.some.injEq] <;>
    grind

/-! ### No edge twice -/

theorem nodup_find_direct (h : nodes.Nodup) (t : Ty) : ((ofNodes nodes).direct.find t).Nodup := by
  rw [find_direct]
  exact (h.filter _).filter _

theorem nodup_find_unwrapped (h : nodes.Nodup) (t : Ty) :
    ((ofNodes nodes).unwrapped.find t).Nodup := by
  rw [find_unwrapped]
  refine (h.filter _).filterMap ?_
  intro n m entry hn hm
  obtain ⟨_, -, rfl⟩ := Option.map_eq_some_iff.mp hn
  obtain ⟨_, -, heq⟩ := Option.map_eq_some_iff.mp hm
  exact (congrArg Prod.fst heq).symm

/-- An adapter that borrows is neither direct use nor one that unwraps. -/
theorem adapter_of_borrowed? {t inner : Ty} {a : Adapter} (h : t.borrowed? = some (inner, a)) :
    a = .borrow ∨ a = .borrowMut := by
  unfold Ty.borrowed? at h
  split at h
  · exact .inl (by simpa using (congrArg (fun x => x.2) (Option.some.inj h)).symm)
  · exact .inr (by simpa using (congrArg (fun x => x.2) (Option.some.inj h)).symm)
  · simp at h

/-- What is unwrapped is unwrapped by an adapter for that. -/
theorem adapter_of_unwrapped {t inner : Ty} {a : Adapter} (h : t.unwrapped = some (inner, a)) :
    a = .unwrapResult ∨ a = .unwrapOption := by
  have hw : t.wrapped? = some (inner, a) := (Option.filter_eq_some_iff.mp h).1
  unfold Ty.wrapped? at hw
  grind

/-- No edge into an input is listed twice: the three groups differ in their adapters, and
within one group each node comes once. -/
theorem nodup_edgesInto (h : nodes.Nodup) :
    ((ofNodes nodes).edgesInto choice consumer input wanted).Nodup := by
  have hdirect : ∀ t a, (((ofNodes nodes).direct.find t).map
      fun p => (⟨p, consumer, input, a⟩ : Edge)).Nodup := fun t a =>
    (nodup_find_direct h t).map fun p q heq => (Edge.mk.inj heq).1
  have hunwrap : (((ofNodes nodes).unwrapped.find wanted).map
      fun found => (⟨found.1, consumer, input, found.2⟩ : Edge)).Nodup :=
    (nodup_find_unwrapped h wanted).map fun p q heq =>
      Prod.ext (Edge.mk.inj heq).1 (Edge.mk.inj heq).2.2.2
  have hadapter : ∀ e ∈ ((ofNodes nodes).unwrapped.find wanted).map
      (fun found => (⟨found.1, consumer, input, found.2⟩ : Edge)),
      e.adapter = .unwrapResult ∨ e.adapter = .unwrapOption := by
    intro e he
    obtain ⟨⟨p, a⟩, hp, rfl⟩ := List.mem_map.mp he
    exact adapter_of_unwrapped (mem_find_unwrapped.mp hp).2
  unfold edgesInto
  refine List.Nodup.append (List.Nodup.append (hdirect _ _) ?_ ?_) ?_ ?_
  · -- the borrowed ones
    cases choice.borrow with
    | false => exact List.nodup_nil
    | true =>
        cases wanted.borrowed? with
        | none => exact List.nodup_nil
        | some inside => exact hdirect inside.1 inside.2
  · -- direct and borrowed ones differ in the adapter
    intro e hd hb
    obtain ⟨p, -, rfl⟩ := List.mem_map.mp hd
    cases hchoice : choice.borrow with
    | false => simp [hchoice] at hb
    | true =>
        cases hinside : wanted.borrowed? with
        | none => simp [hchoice, hinside] at hb
        | some inside =>
            have := adapter_of_borrowed? hinside
            simp_all
  · -- the unwrapped ones
    cases choice.unwrap with
    | false => exact List.nodup_nil
    | true => exact hunwrap
  · -- and those differ from both in the adapter
    intro e hdb hu
    cases hchoice : choice.unwrap with
    | false => simp [hchoice] at hu
    | true =>
        have ha := hadapter e (by simpa [hchoice] using hu)
        rcases List.mem_append.mp hdb with hd | hb
        · obtain ⟨p, -, rfl⟩ := List.mem_map.mp hd
          simp at ha
        · cases hborrow : choice.borrow with
          | false => simp [hborrow] at hb
          | true =>
              cases hinside : wanted.borrowed? with
              | none => simp [hborrow, hinside] at hb
              | some inside =>
                  have := adapter_of_borrowed? hinside
                  simp only [hborrow, hinside, reduceIte, List.mem_map] at hb
                  obtain ⟨p, -, rfl⟩ := hb
                  rcases this with h | h <;> rcases ha with h' | h' <;> simp_all

end OutputIndex

/-! ## The graph of a list of instances -/

namespace Graph

variable {instances : List Instance} {choice : AdapterChoice} {n : Node} {i : Nat}

/-- The producers of an input of a node are found by the type of that input. -/
theorem producersFor_build (hn : n ∈ nodesOf instances) :
    (build choice instances).producersFor n i =
      match n.api.inputTypes[i]? with
      | some wanted => (OutputIndex.ofNodes (nodesOf instances)).edgesInto choice n i wanted
      | none => [] := by
  have hplace : (nodesOf instances)[n.place]? = some n := by
    rw [getElem?_nodesOf, mem_nodesOf.mp hn]
    rfl
  simp only [producersFor, build, List.getElem?_toArray, List.getElem?_map, hplace,
    Option.map_some, OutputIndex.edgesIntoEach, List.getElem?_mapIdx]
  cases n.api.inputTypes[i]? <;> rfl

/-- The edges into an input of a node have a place in the graph. -/
theorem exists_edges_build (choice : AdapterChoice) (hn : n ∈ nodesOf instances)
    (hi : i < n.api.inputTypes.length) :
    ∃ inputs edges, (build choice instances).slots[n.place]? = some inputs ∧
      inputs[i]? = some edges := by
  have hplace : (nodesOf instances)[n.place]? = some n := by
    rw [getElem?_nodesOf, mem_nodesOf.mp hn]
    rfl
  have hwanted := List.getElem?_eq_getElem hi
  refine ⟨((OutputIndex.ofNodes (nodesOf instances)).edgesIntoEach choice n).toArray,
    (OutputIndex.ofNodes (nodesOf instances)).edgesInto choice n i n.api.inputTypes[i], ?_, ?_⟩
  · simp only [build, List.getElem?_toArray, List.getElem?_map, hplace, Option.map_some]
  · simp only [OutputIndex.edgesIntoEach, List.getElem?_toArray, List.getElem?_mapIdx, hwanted,
      Option.map_some]

/-- An edge into an input comes from a node whose output fills it. -/
theorem mem_producersFor_build (hn : n ∈ nodesOf instances) {e : Edge} :
    e ∈ (build choice instances).producersFor n i ↔
      ∃ wanted, n.api.inputTypes[i]? = some wanted ∧
        (e.consumer = n ∧ e.input = i) ∧
        (e.producer ∈ nodesOf instances ∧ e.producer.isProducer = true) ∧
        (e.adapter = .direct ∧ e.producer.api.output = wanted ∨
          choice.borrow = true ∧ wanted.borrowed? = some (e.producer.api.output, e.adapter) ∨
          choice.unwrap = true ∧ e.producer.api.output.unwrapped = some (wanted, e.adapter)) := by
  rw [producersFor_build hn]
  cases n.api.inputTypes[i]? with
  | none => simp
  | some wanted => simp [OutputIndex.mem_edgesInto]

/-- What is offered for an input of a node comes from a node. -/
theorem producer_mem_of_mem_producersFor (hn : n ∈ nodesOf instances) {e : Edge}
    (he : e ∈ (build choice instances).producersFor n i) : e.producer ∈ nodesOf instances := by
  obtain ⟨_, -, -, ⟨hproducer, -⟩, -⟩ := (mem_producersFor_build hn).mp he
  exact hproducer

theorem nodup_producersFor_build (hn : n ∈ nodesOf instances) :
    ((build choice instances).producersFor n i).Nodup := by
  rw [producersFor_build hn]
  cases n.api.inputTypes[i]? with
  | none => exact List.nodup_nil
  | some wanted => exact OutputIndex.nodup_edgesInto (nodup_nodesOf instances)

/-- On concrete instances the output at an edge fills the input through the adapter, and it
is not the unit. -/
theorem fits_of_mem_producersFor (hconcrete : ∀ m ∈ instances, m.IsConcrete)
    (hn : n ∈ nodesOf instances) {e : Edge} {wanted : Ty}
    (he : e ∈ (build choice instances).producersFor n i)
    (hwanted : n.api.inputTypes[i]? = some wanted) :
    e.adapter.Fits e.producer.api.output wanted ∧ e.producer.api.output.isUnit = false := by
  obtain ⟨w, hw, -, ⟨-, hproducer⟩, hfill⟩ := (mem_producersFor_build hn).mp he
  obtain rfl : w = wanted := Option.some.inj (hw.symm.trans hwanted)
  have hw : w.IsConcrete :=
    (hconcrete _ (api_mem_of_mem_nodesOf hn)).of_inputTypes hwanted
  refine ⟨?_, by simp_all [Node.isProducer]⟩
  rcases hfill with ⟨ha, ho⟩ | ⟨-, hb⟩ | ⟨-, hu⟩
  · rw [ha]
    exact ho
  · rcases hw.eq_of_borrowed? hb with ⟨ha, ht⟩ | ⟨ha, ht⟩ <;> rw [ha] <;> exact ht
  · rcases OutputIndex.adapter_of_unwrapped hu with ha | ha <;> rw [ha] at hu ⊢ <;> exact hu

end Graph
end FuzzSynth

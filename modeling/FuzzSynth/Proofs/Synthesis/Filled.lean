/-
Parameters that are left in instances.

A type can refer to a parameter by its name, or by a path that begins with its name, such
as `T::Item`.  The reader of types knows a parameter by the whole name, so a path that only
begins with one is read as a named type like any other: a projection.  Replacing parameters
passes it by, and no later stage looks into names, so instances of different types share it
and are linked by it as if it were concrete.

`isFilled_instanceOf_iff` says how far this goes.  No node with the name of a parameter is
left in an instance, and a node that refers to a parameter in the other way is left exactly
if there was one in the declaration.  `isFilled_iff_of_run` says it for everything that a run
is built on: the nodes of the graph, the ends of its edges and the calls of the drivers.

What is left is told apart from what was put in (`Ty.kept`), since a candidate may have the
name of a parameter without being one.
-/
import FuzzSynth.Proofs.Driver.Typed
import FuzzSynth.Proofs.Graph.Comparison
import FuzzSynth.Proofs.Instance.Sound
import FuzzSynth.Proofs.Synthesis.Result
import FuzzSynth.Proofs.Ty.RoundTrip

namespace FuzzSynth

/-! ## References to parameters -/

/-- Whether a former is a path that begins with one of the parameters. -/
def Former.beginsIn (params : List String) : Former → Bool
  | path name => params.contains (String.ofList (Ty.firstName name))
  | _ => false

namespace Ty

/-- Whether a node has the name of a parameter, or is a path that begins with one. -/
def refersTo (params : List String) (n : Ty) : Bool :=
  params.contains n.label || n.former.beginsIn params

/-- Whether a node is a path that begins with a parameter and is not that parameter. -/
def isProjection (params : List String) (n : Ty) : Bool :=
  !params.contains n.label && n.former.beginsIn params

mutual

/-- The nodes that are left of a type when its parameters are replaced, outermost first, with
what becomes of their arguments. -/
def kept (fill : String → Option Ty) : Ty → List Ty
  | node f true as => if (fill f.label).isSome then [] else [node f true as]
  | node f false as => node f false (substAll fill as) :: keptAll fill as

/-- The nodes that are left of each type of a list. -/
def keptAll (fill : String → Option Ty) : List Ty → List Ty
  | [] => []
  | a :: as => kept fill a ++ keptAll fill as

end

variable {params : List String} {fill : String → Option Ty} {t n : Ty} {f : Former}
  {as : List Ty}

theorem keptAll_eq (fill : String → Option Ty) (as : List Ty) :
    keptAll fill as = as.flatMap (kept fill) := by
  induction as with
  | nil => rfl
  | cons a as ih => simp [keptAll, ih]

theorem mem_kept_node :
    n ∈ (node f false as).kept fill ↔
      n = node f false (as.map (subst fill)) ∨ ∃ a ∈ as, n ∈ a.kept fill := by
  rw [kept, keptAll_eq, substAll_eq, List.mem_cons, List.mem_flatMap]

/-! ## What replacing parameters leaves -/

theorem mem_nodes_subst_node
    (h : ∀ a ∈ as, n ∈ (a.subst fill).nodes ↔
      n ∈ a.kept fill ∨ ∃ name ∈ a.slots, ∃ u, fill name = some u ∧ n ∈ u.nodes) :
    n ∈ ((node f false as).subst fill).nodes ↔
      n ∈ (node f false as).kept fill ∨
        ∃ name ∈ (node f false as).slots, ∃ u, fill name = some u ∧ n ∈ u.nodes := by
  rw [Ty.subst, substAll_eq, mem_nodes_node, mem_kept_node]
  constructor
  · rintro (hhead | ⟨b, hb, hn⟩)
    · exact .inl (.inl hhead)
    · obtain ⟨a, ha, rfl⟩ := List.mem_map.mp hb
      rcases (h a ha).mp hn with hkept | ⟨name, hname, hput⟩
      · exact .inl (.inr ⟨a, ha, hkept⟩)
      · exact .inr ⟨name, mem_slots_node.mpr ⟨a, ha, hname⟩, hput⟩
  · rintro ((hhead | ⟨a, ha, hkept⟩) | ⟨name, hname, hput⟩)
    · exact .inl hhead
    · exact .inr ⟨_, List.mem_map_of_mem ha, (h a ha).mpr (.inl hkept)⟩
    · obtain ⟨a, ha, hname⟩ := mem_slots_node.mp hname
      exact .inr ⟨_, List.mem_map_of_mem ha, (h a ha).mpr (.inr ⟨name, hname, hput⟩)⟩

/-- Replacing parameters gives the nodes that are left and those of the types put in. -/
theorem Over.mem_nodes_subst_iff (h : Over params t) :
    n ∈ (t.subst fill).nodes ↔
      n ∈ t.kept fill ∨ ∃ name ∈ t.slots, ∃ u, fill name = some u ∧ n ∈ u.nodes := by
  induction h with
  | @param name hname =>
      -- a parameter is replaced as a whole, or stays as a whole
      rw [slots_param, Ty.subst, kept, Former.label]
      cases hfill : fill name with
      | none => simp [hfill, nodes, nodesOfAll]
      | some u => simp [hfill]
  | ref _ ih | refMut _ ih | slice _ ih | array _ ih =>
      apply mem_nodes_subst_node
      intro a ha
      rw [List.mem_singleton.mp ha]
      exact ih
  | tuple _ ih | named _ ih => exact mem_nodes_subst_node ih

/-! ## Types that were read -/

/-- The labels of all but paths begin with a sign. -/
theorem head?_label (hf : ∀ name, f ≠ .path name) :
    f.label.toList.head? ∈ [some '&', some '[', some '('] := by
  cases f with
  | path name => exact absurd rfl (hf name)
  | _ => simp [Former.label]

/-- So only paths have labels that can be the names of parameters. -/
theorem label_not_mem (hnames : ∀ name ∈ params, Text.IsPathName name.toList)
    (hf : ∀ name, f ≠ .path name) : f.label ∉ params := by
  intro hmem
  obtain ⟨c, tail, heq, hc, -⟩ := (hnames _ hmem).exists_cons
  have hsign := head?_label hf
  rw [heq, List.head?_cons] at hsign
  simp only [List.mem_cons, Option.some.injEq, List.not_mem_nil, or_false] at hsign
  rcases hsign with rfl | rfl | rfl <;> exact absurd hc (by decide)

theorem label_mem_iff_node (hhead : f.label ∉ params)
    (h : ∀ a ∈ as, ∀ n ∈ a.nodes, n.label ∈ params ↔ n.isParam = true) :
    ∀ n ∈ (node f false as).nodes, n.label ∈ params ↔ n.isParam = true := by
  intro n hn
  rcases mem_nodes_node.mp hn with rfl | ⟨a, ha, hn⟩
  · exact iff_of_false hhead Bool.false_ne_true
  · exact h a ha n hn

/-- In a type that was read the nodes with the name of a parameter are the parameters. -/
theorem Spelled.label_mem_iff (hnames : ∀ name ∈ params, Text.IsPathName name.toList)
    (h : Spelled params t) : ∀ n ∈ t.nodes, n.label ∈ params ↔ n.isParam = true := by
  induction h with
  | @param name _ hname =>
      intro n hn
      obtain rfl := List.mem_singleton.mp hn
      exact iff_of_true hname rfl
  | ref _ ih | refMut _ ih | slice _ ih | array _ _ ih =>
      apply label_mem_iff_node (label_not_mem hnames (by simp [Former.ofLength]))
      intro a ha
      rw [List.mem_singleton.mp ha]
      exact ih
  | tuple _ ih => exact label_mem_iff_node (label_not_mem hnames (by simp)) ih
  | named _ hfree _ ih => exact label_mem_iff_node hfree ih

theorem forall_kept_iff_node (hhead : f.label ∉ params)
    (h : ∀ a ∈ as, (∀ n ∈ a.kept fill, n.refersTo params = false) ↔
      ∀ n ∈ a.nodes, n.isProjection params = false) :
    (∀ n ∈ (node f false as).kept fill, n.refersTo params = false) ↔
      ∀ n ∈ (node f false as).nodes, n.isProjection params = false := by
  have hrefers : ∀ bs, (node f false bs).refersTo params = f.beginsIn params := by
    intro bs
    simp [refersTo, label, former, hhead]
  have hprojects : (node f false as).isProjection params = f.beginsIn params := by
    simp [isProjection, label, former, hhead]
  -- the head refers to a parameter before and after its arguments are replaced, or never
  constructor
  · intro hkept n hn
    rcases mem_nodes_node.mp hn with rfl | ⟨a, ha, hn⟩
    · have hself := hkept _ (mem_kept_node.mpr (.inl rfl))
      rw [hprojects, ← hself, hrefers]
    · have hbelow : ∀ n ∈ a.kept fill, n.refersTo params = false := fun n hn =>
        hkept n (mem_kept_node.mpr (.inr ⟨a, ha, hn⟩))
      exact (h a ha).mp hbelow n hn
  · intro hnone n hn
    rcases mem_kept_node.mp hn with rfl | ⟨a, ha, hn⟩
    · rw [hrefers, ← hprojects]
      exact hnone _ (mem_nodes_node.mpr (.inl rfl))
    · have hbelow : ∀ n ∈ a.nodes, n.isProjection params = false := fun n hn =>
        hnone n (mem_nodes_node.mpr (.inr ⟨a, ha, hn⟩))
      exact (h a ha).mpr hbelow n hn

/-- What is left of a type that was read refers to no parameter exactly if nothing in the type
is a projection. -/
theorem Spelled.forall_kept_iff (hnames : ∀ name ∈ params, Text.IsPathName name.toList)
    (hfill : ∀ name ∈ params, (fill name).isSome = true) (h : Spelled params t) :
    (∀ n ∈ t.kept fill, n.refersTo params = false) ↔
      ∀ n ∈ t.nodes, n.isProjection params = false := by
  induction h with
  | @param name _ hname =>
      -- nothing is left of a parameter, and it is no projection
      have hkept : (Ty.param name).kept fill = [] := if_pos (hfill name hname)
      have hself : (Ty.param name).isProjection params = false := by
        simp [isProjection, label, former, Former.label, hname]
      simp [hkept, nodes, nodesOfAll, hself]
  | ref _ ih | refMut _ ih | slice _ ih | array _ _ ih =>
      apply forall_kept_iff_node (label_not_mem hnames (by simp [Former.ofLength]))
      intro a ha
      rw [List.mem_singleton.mp ha]
      exact ih
  | tuple _ ih => exact forall_kept_iff_node (label_not_mem hnames (by simp)) ih
  | named _ hfree _ ih => exact forall_kept_iff_node hfree ih

/-- The parameters of a type that was read have the names of paths. -/
theorem Spelled.isPathName_of_mem_slots (h : Spelled params t) :
    ∀ name ∈ t.slots, Text.IsPathName name.toList := by
  have hnode : ∀ {f as}, (∀ a ∈ as, ∀ name ∈ a.slots, Text.IsPathName name.toList) →
      ∀ name ∈ (node f false as).slots, Text.IsPathName name.toList := by
    intro f as hargs name hname
    obtain ⟨a, ha, hname⟩ := mem_slots_node.mp hname
    exact hargs a ha name hname
  induction h with
  | @param name hname _ =>
      intro other hother
      obtain rfl := List.mem_singleton.mp hother
      exact hname
  | ref _ ih | refMut _ ih | slice _ ih | array _ _ ih =>
      apply hnode
      intro a ha
      rw [List.mem_singleton.mp ha]
      exact ih
  | tuple _ ih | named _ _ _ ih => exact hnode ih

end Ty

/-! ## Declarations -/

namespace ApiFact

variable {fact : ApiFact} {api : Signature}

/-- The types of a signature are spelled with the parameters that the fact declares. -/
theorem spelled_of_signature (h : fact.signature = .ok api) :
    ∀ t ∈ api.types, t.Spelled fact.paramNames := by
  intro t ht
  rcases parse_of_mem_types h t ht with rfl | ⟨text, hparse⟩
  · exact .tuple (by simp)
  · exact Ty.spelled_of_parse hparse

/-- Every declared parameter has the name of a path. -/
theorem isPathName_of_mem_paramNames (h : fact.signature = .ok api) :
    ∀ name ∈ fact.paramNames, Text.IsPathName name.toList := by
  intro name hname
  obtain ⟨t, ht, hslot⟩ := exists_mem_slots h name hname
  exact (spelled_of_signature h t ht).isPathName_of_mem_slots name hslot

end ApiFact

/-! ## Instances -/

namespace Instance

/-- The nodes of the declared types that are left. -/
def leftNodes (m : Instance) : List Ty :=
  m.declaration.types.flatMap (Ty.kept m.substitution.typeFor)

/-- Nothing that is left refers to a parameter of the declaration. -/
def IsFilled (m : Instance) : Prop :=
  ∀ n ∈ m.leftNodes, n.refersTo (m.declaration.generics.map GenericParam.name) = false

end Instance

section Declared

variable {fact : ApiFact} {api : Signature} {pool : Pool} {σ : Substitution}

/-- The nodes of an instance are those that are left and those of the types put in. -/
theorem mem_nodes_instanceOf_iff (h : fact.signature = .ok api)
    (hσ : σ.Resolves pool api.generics) {n : Ty} :
    (∃ t ∈ (api.instanceOf σ).signature.types, n ∈ t.nodes) ↔
      n ∈ (api.instanceOf σ).leftNodes ∨ ∃ u ∈ σ.types, n ∈ u.nodes := by
  have hover := ApiFact.isScoped_of_signature h
  have htypes : (api.instanceOf σ).signature.types = api.types.map fun t => t.subst σ.typeFor :=
    Signature.types_subst api σ
  have hleft : n ∈ (api.instanceOf σ).leftNodes ↔ ∃ t ∈ api.types, n ∈ t.kept σ.typeFor :=
    List.mem_flatMap
  rw [htypes, hleft]
  constructor
  · rintro ⟨t, ht, hn⟩
    obtain ⟨declared, hdeclared, rfl⟩ := List.mem_map.mp ht
    rcases (hover declared hdeclared).mem_nodes_subst_iff.mp hn with hkept | ⟨name, -, u, hu, hn⟩
    · exact .inl ⟨declared, hdeclared, hkept⟩
    · -- what was looked up stands in some pair
      obtain ⟨pair, hpair, rfl⟩ := Option.map_eq_some_iff.mp hu
      exact .inr ⟨_, List.mem_map_of_mem (List.mem_of_find?_eq_some hpair), hn⟩
  · rintro (⟨declared, hdeclared, hkept⟩ | ⟨u, hu, hn⟩)
    · exact ⟨_, List.mem_map_of_mem hdeclared,
        (hover declared hdeclared).mem_nodes_subst_iff.mpr (.inl hkept)⟩
    · -- the parameter of the pair occurs in the declaration and is the only one of its name
      obtain ⟨⟨p, c⟩, hpair, rfl⟩ := List.mem_map.mp hu
      have hp : p.name ∈ fact.paramNames := by
        rw [← ApiFact.map_name_generics h, ← hσ.params_eq]
        exact List.mem_map_of_mem (List.mem_map_of_mem hpair)
      have hnames := ApiFact.nodup_paramNames h
      rw [← ApiFact.map_name_generics h] at hnames
      have htype := hσ.typeFor_of_mem hnames hpair
      obtain ⟨declared, hdeclared, hslot⟩ := ApiFact.exists_mem_slots h _ hp
      exact ⟨_, List.mem_map_of_mem hdeclared,
        (hover declared hdeclared).mem_nodes_subst_iff.mpr (.inr ⟨_, hslot, _, htype, hn⟩)⟩

/-- If each parameter is replaced, an instance is filled exactly if its declaration has no
projection. -/
theorem isFilled_instanceOf_iff (h : fact.signature = .ok api)
    (hσ : ∀ name ∈ fact.paramNames, (σ.typeFor name).isSome = true) :
    (api.instanceOf σ).IsFilled ↔
      ∀ t ∈ api.types, ∀ n ∈ t.nodes, n.isProjection fact.paramNames = false := by
  have hnames := ApiFact.isPathName_of_mem_paramNames h
  have hdeclared : ∀ t ∈ api.types,
      (∀ n ∈ t.kept σ.typeFor, n.refersTo fact.paramNames = false) ↔
        ∀ n ∈ t.nodes, n.isProjection fact.paramNames = false := fun t ht =>
    (ApiFact.spelled_of_signature h t ht).forall_kept_iff hnames hσ
  have hfilled : (api.instanceOf σ).IsFilled ↔
      ∀ t ∈ api.types, ∀ n ∈ t.kept σ.typeFor, n.refersTo fact.paramNames = false := by
    rw [Instance.IsFilled, Instance.leftNodes, ← ApiFact.map_name_generics h]
    simp only [List.mem_flatMap]
    exact ⟨fun hall t ht n hn => hall n ⟨t, ht, hn⟩, fun hall n ⟨t, ht, hn⟩ => hall t ht n hn⟩
  rw [hfilled]
  exact forall₂_congr hdeclared

end Declared

/-! ## Runs -/

namespace Synthesis

variable {config : Config} {pool : Pool} {document : Document} {s : Synthesis}

/-- In a declaration the nodes with the name of a parameter are the parameters.  In the instances
of a run these are all replaced, and what refers to a parameter in another way is left exactly
where the declaration has a projection.  The edges and the drivers are over these instances. -/
theorem isFilled_iff_of_run (h : run config pool (.ofDocument document) = .ok s) :
    (∀ (fact : ApiFact) (api : Signature), fact.signature = .ok api → ∀ t ∈ api.types,
      ∀ n ∈ t.nodes, (n.label ∈ fact.paramNames ↔ n.isParam = true)) ∧
    (∀ m ∈ s.graph.nodes, ∃ fact ∈ document.apis, fact.signature = .ok m.api.declaration ∧
      (∀ n, (∃ t ∈ m.api.signature.types, n ∈ t.nodes) ↔
        n ∈ m.api.leftNodes ∨ ∃ u ∈ m.api.substitution.types, n ∈ u.nodes) ∧
      (m.api.IsFilled ↔ ∀ t ∈ m.api.declaration.types, ∀ n ∈ t.nodes,
        n.isProjection fact.paramNames = false)) ∧
    (∀ e ∈ s.graph.edges, e.producer ∈ s.graph.nodes ∧ e.consumer ∈ s.graph.nodes) ∧
    ∀ d ∈ s.drivers, ∀ c ∈ d.calls, c.node ∈ s.graph.nodes := by
  have hran := ran_of_run h
  refine ⟨?_, ?_, ?_, ?_⟩
  · intro fact api hsignature t ht
    exact (ApiFact.spelled_of_signature hsignature t ht).label_mem_iff
      (ApiFact.isPathName_of_mem_paramNames hsignature)
  · intro m hm
    rw [hran.nodes_eq] at hm
    obtain ⟨part, hpart, hm⟩ := List.mem_flatMap.mp (api_mem_of_mem_nodesOf hm)
    obtain ⟨api, hapi, hinstantiate⟩ := hran.exists_api_of_mem_parts hpart
    obtain ⟨fact, hfact, hsignature⟩ := Surface.mem_apis_ofDocument_iff.mp hapi
    obtain ⟨σ, hσ, heq⟩ := Pool.exists_resolves_of_instantiate hinstantiate _ hm
    have hcovers : ∀ name ∈ fact.paramNames, (σ.typeFor name).isSome = true := by
      intro name hname
      rw [← ApiFact.map_name_generics hsignature] at hname
      obtain ⟨p, c, -, -, htype⟩ := hσ.exists_typeFor hname
      rw [htype]
      rfl
    rw [heq]
    exact ⟨fact, hfact, hsignature, fun n => mem_nodes_instanceOf_iff hsignature hσ,
      isFilled_instanceOf_iff hsignature hcovers⟩
  · intro e he
    rw [hran.graph_eq] at he
    rw [hran.nodes_eq]
    exact Graph.mem_nodes_of_mem_edges _ _ he
  · intro d hd c hc
    obtain ⟨target, htarget, hd⟩ := hran.mem_drivers_iff.mp hd
    have htarget := (Ran.mem_targets_iff.mp htarget).1
    rw [hran.graph_eq] at hd htarget
    rw [hran.nodes_eq]
    exact SearchSettings.mem_nodes_of_mem_drivers htarget hd c hc

/-! ### A small case -/

/-- `next<T: Copy>(it: T) -> T::Item`, `take<T: Copy>(it: T, item: T::Item)` and
`print<T: Copy>(value: T)`. -/
def itemDocument : Document where
  crate := "demo"
  apis := [⟨"next", [⟨"T", ["Copy"]⟩], [⟨"it", "T"⟩], some "T::Item"⟩,
    ⟨"take", [⟨"T", ["Copy"]⟩], [⟨"it", "T"⟩, ⟨"item", "T::Item"⟩], none⟩,
    ⟨"print", [⟨"T", ["Copy"]⟩], [⟨"value", "T"⟩], none⟩]
  candidates := []

/-- The types `i32` and `u8`, both `Copy`. -/
def copyPool : Pool :=
  (Pool.ofFacts [⟨"i32", ["Copy"]⟩, ⟨"u8", ["Copy"]⟩] false).pool

/-- Of the three only `print` is filled, and one of the drivers calls `take` at `i32` with what
`next` gives at `u8`. -/
theorem isFilled_iff_of_run_itemDocument :
    ∃ s, run {} copyPool (.ofDocument itemDocument) = .ok s ∧
      s.graph.nodes.map (fun m => m.api.key) = ["next<T=i32>", "next<T=u8>", "take<T=i32>",
        "take<T=u8>", "print<T=i32>", "print<T=u8>"] ∧
      (∀ m ∈ s.graph.nodes, m.api.IsFilled ↔ m.api.declaration.path = "print") ∧
      ["next<T=u8>", "take<T=i32>"] ∈ s.drivers.map fun d => d.calls.map fun c => c.node.api.key := by
  obtain ⟨s, hs⟩ := exists_run_default copyPool (.ofDocument itemDocument)
  have hkeys : (run {} copyPool (.ofDocument itemDocument)).toOption.map
      (fun s => s.graph.nodes.map fun m => m.api.key) = some ["next<T=i32>", "next<T=u8>",
        "take<T=i32>", "take<T=u8>", "print<T=i32>", "print<T=u8>"] := by
    decide +kernel
  have hcalls : (run {} copyPool (.ofDocument itemDocument)).toOption.bind (fun s =>
      (s.drivers.map fun d => d.calls.map fun c => c.node.api.key)[3]?) =
        some ["next<T=u8>", "take<T=i32>"] := by
    decide +kernel
  have hprojects : ∀ fact ∈ itemDocument.apis, fact.signature.toOption.all (fun api =>
      (∀ t ∈ api.types, ∀ n ∈ t.nodes, n.isProjection fact.paramNames = false) ↔
        api.path = "print") = true := by
    decide +kernel
  rw [hs] at hkeys hcalls
  refine ⟨s, hs, Option.some.inj hkeys, ?_, List.mem_of_getElem? hcalls⟩
  intro m hm
  obtain ⟨-, hnodes, -, -⟩ := isFilled_iff_of_run hs
  obtain ⟨fact, hfact, hsignature, -, hfilled⟩ := hnodes m hm
  have hprint := hprojects fact hfact
  rw [hsignature] at hprint
  exact hfilled.trans (of_decide_eq_true hprint)

end Synthesis
end FuzzSynth

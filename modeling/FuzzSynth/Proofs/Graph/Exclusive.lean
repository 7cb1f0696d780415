/-
One way from a producer to an input.

Direct use, borrowing and unwrapping are looked up one after the other, and nothing
compares what they find.  That no producer reaches an input in two ways is a matter of
depth: what is borrowed for an input is less deep than the type wanted there, what is
unwrapped for it is deeper, and what is used directly has that very type
(`Adapter.eq_of_fills`).  So a built graph has at most one edge from a producer to an
input of a consumer, whatever the adapters allowed are (`nodup_map_ends_edges`).
-/
import FuzzSynth.Proofs.Graph.Comparison

namespace FuzzSynth

/-! ## Depth -/

namespace Ty

theorem depth_le_maxDepth {a : Ty} {as : List Ty} (h : a ∈ as) : a.depth ≤ maxDepth as := by
  induction as with
  | nil => cases h
  | cons b as ih =>
      rw [maxDepth]
      rcases List.mem_cons.mp h with rfl | h
      · exact Nat.le_max_left ..
      · exact Nat.le_trans (ih h) (Nat.le_max_right ..)

/-- An argument is less deep than the type it belongs to. -/
theorem depth_lt_of_mem_args {a t : Ty} (h : a ∈ t.args) : a.depth < t.depth := by
  obtain ⟨f, p, as⟩ := t
  have := depth_le_maxDepth h
  simp only [args, depth] at this ⊢
  omega

/-- What a reference refers to is less deep than the reference. -/
theorem depth_lt_of_borrowed? {t inner : Ty} {a : Adapter}
    (h : t.borrowed? = some (inner, a)) : inner.depth < t.depth := by
  have hfills := (Adapter.fills_iff_borrowed?
    (List.mem_pair.mpr (OutputIndex.adapter_of_borrowed? h)) inner t).mpr h
  apply depth_lt_of_mem_args
  apply List.mem_of_mem_head?
  rcases OutputIndex.adapter_of_borrowed? h with rfl | rfl <;> simp_all [Adapter.fills]

/-- What a wrapper holds is less deep than the wrapper. -/
theorem depth_lt_of_unwrapped {t inner : Ty} {a : Adapter}
    (h : t.unwrapped = some (inner, a)) : inner.depth < t.depth := by
  have hw : t.wrapped? = some (inner, a) := (Option.filter_eq_some_iff.mp h).1
  exact depth_lt_of_mem_args (List.mem_of_mem_head? (Adapter.wrapped?_eq_some_iff.mp hw).1)

end Ty

/-! ## One adapter at most -/

namespace Adapter

/-- The ways in which an output fills an input, by where the two types stand in each other. -/
theorem fills_iff {a : Adapter} {output wanted : Ty} :
    a.fills output wanted = true ↔ a = direct ∧ output = wanted ∨
      wanted.borrowed? = some (output, a) ∨ output.unwrapped = some (wanted, a) := by
  have hborrow : ∀ inner, wanted.borrowed? = some (inner, a) → a = borrow ∨ a = borrowMut :=
    fun _ => OutputIndex.adapter_of_borrowed?
  have hunwrap : ∀ inner, output.unwrapped = some (inner, a) →
      a = unwrapResult ∨ a = unwrapOption := fun _ => OutputIndex.adapter_of_unwrapped
  cases a with
  | direct => simp_all [fills]
  | borrow | borrowMut =>
      rw [fills_iff_borrowed? (by simp)]
      simp_all
  | unwrapResult | unwrapOption =>
      rw [fills_iff_unwrapped (by simp)]
      simp_all

/-- An output fills an input in one way at most.  Two ways of one kind name their adapter;
two of different kinds would put the depths of the types in two different orders. -/
theorem eq_of_fills {a b : Adapter} {output wanted : Ty} (ha : a.fills output wanted = true)
    (hb : b.fills output wanted = true) : a = b := by
  have hborrow : ∀ c, wanted.borrowed? = some (output, c) → output.depth < wanted.depth :=
    fun _ => Ty.depth_lt_of_borrowed?
  have hunwrap : ∀ c, output.unwrapped = some (wanted, c) → wanted.depth < output.depth :=
    fun _ => Ty.depth_lt_of_unwrapped
  rcases fills_iff.mp ha with ⟨rfl, rfl⟩ | ha | ha
  · rcases fills_iff.mp hb with ⟨rfl, -⟩ | hb | hb
    · rfl
    · exact absurd (hborrow b hb) (Nat.lt_irrefl _)
    · exact absurd (hunwrap b hb) (Nat.lt_irrefl _)
  · rcases fills_iff.mp hb with ⟨-, rfl⟩ | hb | hb
    · exact absurd (hborrow a ha) (Nat.lt_irrefl _)
    · exact (Prod.mk.inj (Option.some.inj (ha.symm.trans hb))).2
    · exact absurd (hborrow a ha) (Nat.lt_asymm (hunwrap b hb))
  · rcases fills_iff.mp hb with ⟨-, rfl⟩ | hb | hb
    · exact absurd (hunwrap a ha) (Nat.lt_irrefl _)
    · exact absurd (hunwrap a ha) (Nat.lt_asymm (hborrow b hb))
    · exact (Prod.mk.inj (Option.some.inj (ha.symm.trans hb))).2

end Adapter

/-! ## One edge at most -/

/-- Nodes of one list are told apart by their places. -/
theorem eq_of_place_eq {instances : List Instance} {n m : Node} (hn : n ∈ nodesOf instances)
    (hm : m ∈ nodesOf instances) (hplace : n.place = m.place) : n = m := by
  have hapi : n.api = m.api :=
    Option.some.inj ((mem_nodesOf.mp hn).symm.trans (hplace ▸ mem_nodesOf.mp hm))
  cases n
  cases m
  simp_all

namespace Graph

variable {choice : AdapterChoice} {instances : List Instance}

/-- Edges of a built graph with the same producer, consumer and input are the same. -/
theorem eq_of_mem_edges {e e' : Edge} (he : e ∈ (build choice instances).edges)
    (he' : e' ∈ (build choice instances).edges) (hproducer : e.producer = e'.producer)
    (hconsumer : e.consumer = e'.consumer) (hinput : e.input = e'.input) : e = e' := by
  obtain ⟨-, wanted, hwanted, hinto⟩ := of_mem_edges_build choice instances he
  obtain ⟨-, wanted', hwanted', hinto'⟩ := of_mem_edges_build choice instances he'
  rw [← hconsumer, ← hinput, hwanted] at hwanted'
  obtain rfl : wanted = wanted' := Option.some.inj hwanted'
  have hfills := (of_mem_comparedInto hinto).2.2.2
  have hfills' := (of_mem_comparedInto hinto').2.2.2
  rw [← hproducer] at hfills'
  have hadapter := Adapter.eq_of_fills hfills hfills'
  cases e
  cases e'
  simp_all

/-- No edge of a built graph is listed twice: the copies of an edge all stand in the slot of
its input, which lists it once. -/
theorem nodup_edges_build (choice : AdapterChoice) (instances : List Instance) :
    (build choice instances).edges.Nodup := by
  rw [List.nodup_iff_count_le_one]
  intro e
  by_cases he : e ∈ (build choice instances).edges
  · have hslot : ((build choice instances).producersFor e.consumer e.input).Nodup :=
      nodup_producersFor_build (mem_nodes_of_mem_edges choice instances he).2
    rw [producersFor_build_eq_filter] at hslot
    have hcount := List.nodup_iff_count_le_one.mp hslot e
    rwa [List.count_filter (by simp)] at hcount
  · rw [List.count_eq_zero_of_not_mem he]
    exact Nat.zero_le 1

/-- A built graph has one edge at most from a producer to an input of a consumer, whichever
adapters are allowed.  Nodes are told apart by their places: instances of equal content are
different nodes. -/
theorem nodup_map_ends_edges (choice : AdapterChoice) (instances : List Instance) :
    ((build choice instances).edges.map fun e =>
      (e.producer.place, e.consumer.place, e.input)).Nodup := by
  refine (nodup_edges_build choice instances).map_on ?_
  intro e he e' he' hends
  obtain ⟨hproducer, hconsumer, hinput⟩ : e.producer.place = e'.producer.place ∧
      e.consumer.place = e'.consumer.place ∧ e.input = e'.input := by
    simpa using hends
  have hmem := mem_nodes_of_mem_edges choice instances he
  have hmem' := mem_nodes_of_mem_edges choice instances he'
  exact eq_of_mem_edges he he' (eq_of_place_eq hmem.1 hmem'.1 hproducer)
    (eq_of_place_eq hmem.2 hmem'.2 hconsumer) hinput

/-! ### A small case -/

/-- `open() -> Option<Widget>`. -/
def openWidget : Instance :=
  let opening : Signature := ⟨"open", [], [], .named "Option" [.named "Widget" []]⟩
  ⟨opening, .empty, opening⟩

/-- `wrap(kept: Option<Widget>, held: &Option<Widget>, inner: Widget) -> Option<Option<Widget>>`,
which takes what `open` gives in each of the three ways, and what it gives itself in one. -/
def wrapWidget : Instance :=
  let kept : Ty := .named "Option" [.named "Widget" []]
  let wrap : Signature :=
    ⟨"wrap", [], [("kept", kept), ("held", .ref kept), ("inner", .named "Widget" [])],
      .named "Option" [kept]⟩
  ⟨wrap, .empty, wrap⟩

/-- With `open` declared twice each of its two nodes has one edge into each input of `wrap`. -/
theorem nodup_map_ends_edges_wrapWidget :
    (build ⟨true, true⟩ [openWidget, openWidget, wrapWidget]).edges.map
        (fun e => (e.producer.place, e.consumer.place, e.input, e.adapter)) =
      [(0, 2, 0, .direct), (1, 2, 0, .direct), (2, 2, 0, .unwrapOption), (0, 2, 1, .borrow),
        (1, 2, 1, .borrow), (0, 2, 2, .unwrapOption), (1, 2, 2, .unwrapOption)] ∧
      ((build ⟨true, true⟩ [openWidget, openWidget, wrapWidget]).edges.map fun e =>
        (e.producer.place, e.consumer.place, e.input)).Nodup :=
  ⟨by decide +kernel, nodup_map_ends_edges ⟨true, true⟩ [openWidget, openWidget, wrapWidget]⟩

end Graph
end FuzzSynth
